import LuksEnroll.Methods
import LuksEnroll.Tokens

/-!
# Where a request has a volume key from

Whatever happens around it, a request can say by its own history where a volume key came from.  It
was found in the cache; or the header was loaded and a secret opened a keyslot of it; or the request
formatted the volume itself.  Without one of these a request neither caches a key, nor adds a
keyslot, nor reports an enrollment or a wipe as done.

The statements here are about single requests and need no state: `Tells` ranges over all answers.

The rule has a case for each command that handles a key, and every function of the source is shown once
to keep to it, for any history before the call.  What a method needs a key for is `NeedsKey`, so that
one statement covers the methods that report a slot, those that report a triple and those that make a
mapping.
-/

namespace LuksEnroll

open Library
open Prog (AllCalls Tells)

/-! ## Histories

What a request has been told so far, as far as a key is concerned.
-/

/-- The volume key was found in the cache. -/
def FoundCached (device : String) (vk : VolumeKey) (past : List (Answered Cmd Reply)) : Prop :=
  ⟨Cmd.cacheGet device, some vk⟩ ∈ past

/-- It was not. -/
def MissedCache (device : String) (past : List (Answered Cmd Reply)) : Prop :=
  ⟨Cmd.cacheGet device, none⟩ ∈ past

/-- The header at the device was loaded, and gave up the volume key. -/
def Extracted (device : String) (vk : VolumeKey) (past : List (Answered Cmd Reply)) : Prop :=
  ∃ loaded slot pw s, ⟨Cmd.load device, Except.ok loaded⟩ ∈ past ∧
    ⟨Cmd.volumeKeyGet loaded slot pw, Except.ok (s, vk)⟩ ∈ past

/-- The device was formatted, with a given key or with one the library generated. -/
def FormattedWith (device : String) (vk : Option VolumeKey) (past : List (Answered Cmd Reply)) :
    Prop := ⟨Cmd.format device vk, Except.ok ()⟩ ∈ past

/-- The request was given the key of the volume. -/
def GotKey (device : String) (vk : VolumeKey) (past : List (Answered Cmd Reply)) : Prop :=
  FoundCached device vk past ∨ Extracted device vk past

section Histories

variable {device : String} {vk : VolumeKey} {past past' : List (Answered Cmd Reply)}

/-- Evidence of an extraction is not lost as the request goes on. -/
lemma Extracted.mono (h : Extracted device vk past) (hsub : past ⊆ past') :
    Extracted device vk past' := by
  obtain ⟨loaded, slot, pw, s, hload, hget⟩ := h
  exact ⟨loaded, slot, pw, s, hsub hload, hsub hget⟩

lemma GotKey.mono (h : GotKey device vk past) (hsub : past ⊆ past') : GotKey device vk past' :=
  h.imp (fun hfound => hsub hfound) fun hextracted => hextracted.mono hsub

end Histories

/-! ## The rule

What must be behind a request that caches a key or adds a keyslot.
-/

/-- How a key gets into the cache: by a keyless format of the device, or after it was extracted by a
request that verifies a secret, or after a lookup that found nothing. -/
def InsertedBy (verifies : String → Prop) (device : String) (vk : VolumeKey)
    (past : List (Answered Cmd Reply)) : Prop :=
  FormattedWith device (some vk) past ∨
    Extracted device vk past ∧ (verifies device ∨ MissedCache device past)

/-- What a request's own history says of the commands that need a key. -/
def KeyRule (verifies : String → Prop) (c : Cmd) (past : List (Answered Cmd Reply)) : Prop :=
  match c with
  | Cmd.cacheInsert device vk => InsertedBy verifies device vk past
  | Cmd.addByKey device (some vk) _ => GotKey device vk past
  | Cmd.addByKey device none _ => FormattedWith device none past
  | _ => True

/-- Commands that need no key. -/
def Cmd.Keyless : Cmd → Prop
  | Cmd.cacheInsert _ _ => False
  | Cmd.addByKey _ _ _ => False
  | _ => True

/-- A command that neither caches nor writes a key meets the rule. -/
lemma Cmd.Keyless.rule {verifies : String → Prop} {c : Cmd} {past : List (Answered Cmd Reply)}
    (hc : c.Keyless) : KeyRule verifies c past := by
  cases c with
  | cacheInsert device vk => exact hc.elim
  | addByKey device vk pw => exact hc.elim
  | _ => trivial

/-- A class of commands that has neither insertions into the cache nor new keyslots. -/
lemma Cmd.keyless_of {K : Cmd → Prop} (hinsert : ∀ device vk, ¬ K (Cmd.cacheInsert device vk))
    (hadd : ∀ device vk pw, ¬ K (Cmd.addByKey device vk pw)) {c : Cmd} (hc : K c) : c.Keyless := by
  cases c with
  | cacheInsert device vk => exact hinsert device vk hc
  | addByKey device vk pw => exact hadd device vk pw hc
  | _ => trivial

lemma Cmd.LooksOn.keyless {device : String} {c : Cmd} (hc : c.LooksOn device) : c.Keyless :=
  Cmd.keyless_of (fun _ _ h => h) (fun _ _ _ h => h) hc

section Rule

variable {verifies : String → Prop} {device : String} {past : List (Answered Cmd Reply)} {α : Type}

/-- A part without such commands goes through under the rule. -/
lemma tells_keyless {p : Op α} (hp : p.AllCalls Cmd.Keyless) :
    p.Tells (KeyRule verifies) (fun _ past' => past <:+ past') past :=
  Tells.of_allCalls (fun _ _ hc => hc.rule) hp past

lemma tells_looks {p : Op α} (hp : p.AllCalls (Cmd.LooksOn device)) :
    p.Tells (KeyRule verifies) (fun _ past' => past <:+ past') past :=
  tells_keyless (hp.mono fun _ => Cmd.LooksOn.keyless)

/-! ## Unlocking

The functions that get a key, from the header or from the cache.
-/

lemma tells_openLuks2 (device : String) :
    (openLuks2 device).Tells (KeyRule verifies) (fun x past' => past <:+ past' ∧
      ∀ loaded, x = Except.ok loaded → ⟨Cmd.load device, Except.ok loaded⟩ ∈ past') past := by
  refine ⟨trivial, fun opened => ?_⟩
  cases opened with
  | error e => exact ⟨List.suffix_cons _ _, fun loaded hok => by simp at hok⟩
  | ok u =>
      refine ⟨trivial, fun reply => tells_orFail ⟨?_, fun loaded hok => ?_⟩⟩
      · exact (List.suffix_cons _ _).trans (List.suffix_cons _ _)
      · cases reply with
        | error e => simp [Except.mapError] at hok
        | ok header =>
            simp only [Except.mapError, Except.ok.injEq] at hok
            subst hok
            exact List.mem_cons_self ..

/-- One attempt to open a keyslot of a loaded header, and what follows it. -/
lemma tells_passphraseKey {β : Type} {loaded : Header} {pw : Bytes} {word : String → String}
    {f : ℕ × VolumeKey → Op β} {Q : Except String β → List (Answered Cmd Reply) → Prop}
    (hload : ⟨Cmd.load device, Except.ok loaded⟩ ∈ past)
    (hok : ∀ found past', past <:+ past' → Extracted device found.2 past' →
      (f found).Tells (KeyRule verifies) Q past')
    (herr : ∀ e past', past <:+ past' → Q (Except.error e) past') :
    (Prog.call (Cmd.volumeKeyGet loaded none pw) fun x => (orFail x word).bind f).Tells
      (KeyRule verifies) Q past := by
  refine ⟨trivial, fun reply => ?_⟩
  cases reply with
  | error e => exact herr _ _ (List.suffix_cons _ _)
  | ok found =>
      refine hok found _ (List.suffix_cons _ _) ?_
      exact ⟨loaded, none, pw, found.1, List.mem_cons_of_mem _ hload, List.mem_cons_self ..⟩

/-- A candidate that opens a keyslot extracts the key. -/
lemma tells_tryCandidates {loaded : Header} (pw : Bytes) (slots : List (Option ℕ))
    (lastErr : Option String) (hload : ⟨Cmd.load device, Except.ok loaded⟩ ∈ past) :
    (tryCandidates loaded pw slots lastErr).Tells (KeyRule verifies)
      (fun x past' => past <:+ past' ∧ ∀ found, x = Except.ok found →
        Extracted device found.2 past') past := by
  induction slots generalizing lastErr past with
  | nil => exact ⟨List.suffix_rfl, fun found hok => by simp at hok⟩
  | cons slot rest ih =>
      refine ⟨trivial, fun reply => ?_⟩
      cases reply with
      | ok r =>
          refine ⟨List.suffix_cons _ _, fun found hok => ?_⟩
          obtain rfl := Except.ok.inj hok
          exact ⟨loaded, slot, pw, r.1, List.mem_cons_of_mem _ hload, List.mem_cons_self ..⟩
      | error e =>
          refine Tells.mono (fun x past' h => ?_) (ih (some e) (List.mem_cons_of_mem _ hload))
          exact ⟨(List.suffix_cons _ _).trans h.1, h.2⟩

lemma tells_extractTokenVolumeKey (tokenType : String) (pw : Bytes) :
    (extractTokenVolumeKey device tokenType pw).Tells (KeyRule verifies)
      (fun x past' => past <:+ past' ∧ ∀ found, x = Except.ok found →
        Extracted device found.2 past') past := by
  refine Tells.bind (Tells.mono (fun x past₁ h₁ => ?_) (tells_openLuks2 device))
  cases x with
  | error e => exact ⟨h₁.1, fun found hok => by simp at hok⟩
  | ok loaded =>
      refine ⟨trivial, fun metadata => ?_⟩
      refine Tells.mono (fun x past₂ h₂ => ?_)
        (tells_tryCandidates pw _ none (List.mem_cons_of_mem _ (h₁.2 loaded rfl)))
      exact ⟨(h₁.1.trans (List.suffix_cons _ _)).trans h₂.1, h₂.2⟩

/-- A key that was not in the cache was extracted. -/
lemma tells_coldVolumeKey (unlockMethod passphrase unlockPin : String) :
    (coldVolumeKey device unlockMethod passphrase unlockPin).Tells (KeyRule verifies)
      (fun x past' => past <:+ past' ∧ ∀ vk, x = Except.ok vk → Extracted device vk past') past := by
  rw [coldVolumeKey]
  split_ifs
  · refine Tells.bind (Tells.mono (fun x past₁ h₁ => ?_)
      (tells_looks (derivePassphraseFromToken_looks device unlockMethod unlockPin)))
    cases x with
    | error e => exact ⟨h₁, fun vk hok => by simp at hok⟩
    | ok pw =>
        refine Tells.bind (Tells.mapErr (Tells.mono (fun x past₂ h₂ => ?_)
          (tells_extractTokenVolumeKey unlockMethod pw)))
        cases x with
        | error e => exact ⟨h₁.trans h₂.1, fun vk hok => by simp at hok⟩
        | ok found =>
            refine ⟨h₁.trans h₂.1, fun vk hok => ?_⟩
            obtain rfl := Except.ok.inj hok
            exact h₂.2 found rfl
  · refine Tells.bind (Tells.mono (fun x past₁ h₁ => ?_) (tells_openLuks2 device))
    cases x with
    | error e => exact ⟨h₁.1, fun vk hok => by simp at hok⟩
    | ok loaded =>
        refine tells_passphraseKey (h₁.2 loaded rfl) (fun found past₂ h₂ hkey => ?_)
          fun e past₂ h₂ => ⟨h₁.1.trans h₂, fun vk hok => by simp at hok⟩
        refine ⟨h₁.1.trans h₂, fun vk hok => ?_⟩
        obtain rfl := Except.ok.inj hok
        exact hkey

/-- A volume key was cached, or a secret extracted it. -/
lemma tells_getVolumeKey (unlockMethod passphrase unlockPin : String) :
    (getVolumeKey device unlockMethod passphrase unlockPin).Tells (KeyRule verifies)
      (fun x past' => past <:+ past' ∧ ∀ vk, x = Except.ok vk → GotKey device vk past') past := by
  rw [getVolumeKey]
  split_ifs
  · refine ⟨trivial, fun cached => ?_⟩
    cases cached with
    | some vk =>
        refine ⟨List.suffix_cons _ _, fun vk' hok => ?_⟩
        obtain rfl := Except.ok.inj hok
        exact Or.inl (List.mem_cons_self ..)
    | none =>
        show Tells _ _ ((coldVolumeKey device unlockMethod passphrase unlockPin).bind _) _
        refine Tells.bind (Tells.mono (fun x past₁ h₁ => ?_)
          (tells_coldVolumeKey unlockMethod passphrase unlockPin))
        have hpast := (List.suffix_cons _ _).trans h₁.1
        cases x with
        | error e => exact ⟨hpast, fun vk hok => by simp at hok⟩
        | ok vk =>
            have hkey := h₁.2 vk rfl
            refine ⟨Or.inr ⟨hkey, Or.inr (h₁.1.subset (List.mem_cons_self ..))⟩, fun _ => ?_⟩
            refine ⟨hpast.trans (List.suffix_cons _ _), fun vk' hok => ?_⟩
            obtain rfl := Except.ok.inj hok
            exact Or.inr (hkey.mono (List.subset_cons_self _ _))
  · exact ⟨List.suffix_rfl, fun vk hok => by simp at hok⟩

/-- `VerifyPassphrase` caches the key that it extracted. -/
lemma tells_verifyPassphrase (hverifies : verifies device) (passphrase : String) :
    (verifyPassphrase device passphrase).Tells (KeyRule verifies) (fun _ _ => True) past := by
  refine Tells.bind (Tells.mono (fun x past₁ h₁ => ?_) (tells_openLuks2 device))
  cases x with
  | error e => trivial
  | ok loaded =>
      refine tells_passphraseKey (h₁.2 loaded rfl) (fun found past₂ _ hkey => ?_)
        fun _ _ _ => trivial
      exact ⟨Or.inr ⟨hkey, Or.inl hverifies⟩, fun _ => trivial⟩

lemma tells_verifyToken (hverifies : verifies device) (tokenType pin : String) :
    (verifyToken device tokenType pin).Tells (KeyRule verifies) (fun _ _ => True) past := by
  rw [verifyToken]
  split_ifs
  · trivial
  · refine Tells.bind (Tells.mono (fun x past₁ _ => ?_)
      (tells_looks (derivePassphraseFromToken_looks device tokenType pin)))
    cases x with
    | error e => trivial
    | ok pw =>
        refine Tells.bind (Tells.mapErr (Tells.mono (fun x past₂ h₂ => ?_)
          (tells_extractTokenVolumeKey tokenType pw)))
        cases x with
        | error e => trivial
        | ok found => exact ⟨Or.inr ⟨h₂.2 found rfl, Or.inl hverifies⟩, fun _ => trivial⟩

/-- `OpenVolume` caches no key that it did not extract. -/
lemma tells_activateVolume (name unlockMethod passphrase unlockPin : String) :
    (activateVolume device name unlockMethod passphrase unlockPin).Tells (KeyRule verifies)
      (fun _ _ => True) past := by
  rw [activateVolume]
  split_ifs
  · refine ⟨trivial, fun active => ?_⟩
    cases active with
    | true => trivial
    | false =>
        show Tells _ _ ((getVolumeKey device unlockMethod passphrase unlockPin).bind _) _
        refine Tells.bind (Tells.mono (fun x past₁ _ => ?_)
          (tells_getVolumeKey unlockMethod passphrase unlockPin))
        cases x with
        | error e => trivial
        | ok vk =>
            refine Tells.bind (Tells.mono (fun x past₂ _ => ?_)
              (tells_looks (openLuks2_looks device)))
            cases x with
            | error e => trivial
            | ok loaded => exact ⟨trivial, fun _ => tells_orFail trivial⟩
  · trivial

/-! ## Enrolling and wiping

The functions that need one.
-/

/-- A keyslot is added with the key that the request was given. -/
lemma tells_addKeyslot {vk : VolumeKey} (hkey : GotKey device vk past) (pw : Bytes)
    (minimalPbkdf : Bool) :
    (addKeyslotByVolumeKey device vk pw minimalPbkdf).Tells (KeyRule verifies)
      (fun _ past' => past <:+ past') past := by
  refine Tells.bind (Tells.mono (fun x past₁ h₁ => ?_) (tells_looks (openLuks2_looks device)))
  cases x with
  | error e => exact h₁
  | ok loaded =>
      have hpbkdf := @choosePbkdf_looks device minimalPbkdf
      refine Tells.bind (Tells.mono (fun x past₂ h₂ => ?_) (tells_looks hpbkdf))
      cases x with
      | error e => exact h₁.trans h₂
      | ok u =>
          refine ⟨hkey.mono (h₁.trans h₂).subset, fun reply => tells_orFail ?_⟩
          exact (h₁.trans h₂).trans (List.suffix_cons _ _)

lemma storeToken_keyless (device : String) (prepared : Prepared) (keyslot : ℕ) :
    (storeToken device prepared keyslot).AllCalls Cmd.Keyless := by
  refine (storeToken_issues device prepared keyslot).mono fun c hc => ?_
  rcases hc with hsession | rfl
  · exact hsession.looks.keyless
  · trivial

/-- An enrollment that succeeds was given the key. -/
lemma tells_enrolled {prepare : Op Prepared} (hprepare : prepare.AllCalls (Cmd.LooksOn device))
    (unlockMethod unlockPin passphrase : String) :
    (enrollToken device unlockMethod unlockPin passphrase prepare).Tells (KeyRule verifies)
      (fun x past' => ∀ t, x = Except.ok t → ∃ vk, GotKey device vk past') past := by
  refine Tells.bind (Tells.mono (fun x past₁ _ => ?_) (tells_looks hprepare))
  cases x with
  | error e => exact fun t hok => by simp at hok
  | ok prepared =>
      refine Tells.bind (Tells.mono (fun x past₂ h₂ => ?_)
        (tells_getVolumeKey unlockMethod passphrase unlockPin))
      cases x with
      | error e => exact fun t hok => by simp at hok
      | ok vk =>
          have hkey := h₂.2 vk rfl
          refine Tells.bind (Tells.mono (fun x past₃ h₃ => ?_)
            (tells_addKeyslot hkey prepared.keyslotSecret prepared.minimalPbkdf))
          cases x with
          | error e => exact fun t hok => by simp at hok
          | ok keyslot =>
              refine Tells.mono (fun x past₄ h₄ t _ => ?_)
                (tells_keyless (storeToken_keyless device prepared keyslot))
              exact ⟨vk, hkey.mono (h₃.trans h₄).subset⟩

/-- What is reported as done needed the key; a failure is never reported as done. -/
lemma tells_done {body : Op Triple}
    (h : body.Tells (KeyRule verifies)
      (fun x past' => ∀ t, x = Except.ok t → t.1 = true → ∃ vk, GotKey device vk past') past) :
    (runOp body).Tells (KeyRule verifies)
      (fun x past' => ∀ t, x = Except.ok t → t.1 = true → ∃ vk, GotKey device vk past') past := by
  refine Tells.bind (Tells.attempt (Tells.mono (fun x past' hx => ?_) h))
  cases x with
  | ok t => exact hx
  | error e =>
      rintro t hok hdone
      obtain rfl := Except.ok.inj hok
      simp [opFailed] at hdone

lemma wipeRest_keyless (device : String) (slot : ℤ) :
    (wipeRest device slot).AllCalls Cmd.Keyless := by
  refine (wipeRest_issues device slot).mono fun c hc => ?_
  rcases hc with hsession | ⟨id, rfl⟩ | rfl
  · exact hsession.looks.keyless
  · trivial
  · trivial

/-- A wipe that was reported as done was given the key. -/
lemma tells_opWipeSlot (passphrase unlockMethod pin : String) (slot : I32) :
    (opWipeSlot device passphrase unlockMethod pin slot).Tells (KeyRule verifies)
      (fun x past' => ∀ t, x = Except.ok t → t.1 = true → ∃ vk, GotKey device vk past') past := by
  refine tells_done (Tells.bind (Tells.mono (fun x past₁ h₁ => ?_)
    (tells_getVolumeKey unlockMethod passphrase pin)))
  cases x with
  | error e => exact fun t hok => by simp at hok
  | ok vk =>
      have hkey := h₁.2 vk rfl
      refine Tells.bind (Tells.mono (fun x past₂ h₂ => ?_)
        (tells_looks (listKeyslots_looks device)))
      cases x with
      | error e => exact fun t hok => by simp at hok
      | ok slots =>
          show Tells _ _ (if slots.entries.length ≤ 1 ∧ slot.val ∈ slots.keys then _
            else _ : Op Triple) _
          split_ifs
          · rintro t hok hdone
            obtain rfl := Except.ok.inj hok
            simp [lastKeyslot] at hdone
          · refine Tells.mono (fun x past₃ h₃ t _ _ => ?_)
              (tells_keyless (wipeRest_keyless device slot.val))
            exact ⟨vk, hkey.mono (h₂.trans h₃).subset⟩

/-! ## Formatting

The functions that make one up, or format with a passphrase and cache nothing.
-/

/-- A step of which only the rule matters, and what follows it. -/
lemma tells_then {β : Type} {p : Op α} {f : α → Op β}
    (hp : p.Tells (KeyRule verifies) (fun _ _ => True) past)
    (hf : ∀ a past', (f a).Tells (KeyRule verifies) (fun _ _ => True) past') :
    (p.bind f).Tells (KeyRule verifies) (fun _ _ => True) past := by
  refine Tells.bind (Tells.mono (fun x past' _ => ?_) hp)
  cases x with
  | error e => trivial
  | ok a => exact hf a past'

/-- Commands that need no key, where only the rule matters. -/
lemma tells_free {p : Op α} (hp : p.AllCalls Cmd.Keyless) :
    p.Tells (KeyRule verifies) (fun _ _ => True) past :=
  Tells.mono (fun _ _ _ => trivial) (tells_keyless hp)

/-- The size of the keyslots area is set without a key. -/
lemma tells_applyKeyslotsArea (area : KeyslotsArea) :
    (applyKeyslotsArea area).Tells (KeyRule verifies) (fun _ _ => True) past :=
  tells_free ((applyKeyslotsArea_looks "" area).mono fun _ hc => hc.keyless)

lemma tells_formatLuks2 (path passphrase : String) (area : KeyslotsArea) :
    (formatLuks2 path passphrase area).Tells (KeyRule verifies) (fun _ _ => True) past := by
  refine ⟨trivial, fun opened => ?_⟩
  cases opened with
  | error e => trivial
  | ok u =>
      show Tells _ _ ((applyKeyslotsArea area).bind _) _
      refine tells_then (tells_applyKeyslotsArea area) fun u past' => ?_
      refine ⟨trivial, fun formatted => ?_⟩
      cases formatted with
      | error e => trivial
      | ok u => exact ⟨List.mem_cons_self .., fun _ => tells_orFail trivial⟩

/-- A format without one, which caches the key it made up. -/
lemma tells_formatLuks2Keyless (path : String) (area : KeyslotsArea) :
    (formatLuks2Keyless path area).Tells (KeyRule verifies) (fun _ _ => True) past := by
  refine ⟨trivial, fun vk => ⟨trivial, fun opened => ?_⟩⟩
  cases opened with
  | error e => trivial
  | ok u =>
      show Tells _ _ ((applyKeyslotsArea area).bind _) _
      refine tells_then (tells_applyKeyslotsArea area) fun u past' => ?_
      refine ⟨trivial, fun formatted => ?_⟩
      cases formatted with
      | error e => trivial
      | ok u => exact ⟨Or.inl (List.mem_cons_self ..), fun _ => trivial⟩

lemma tells_formatLuks2Removable (path passphrase : String) :
    (formatLuks2Removable path passphrase).Tells (KeyRule verifies) (fun _ _ => True) past := by
  rw [formatLuks2Removable]
  split_ifs
  · exact tells_formatLuks2Keyless path KeyslotsArea.compact
  · exact tells_then (tells_formatLuks2 path passphrase KeyslotsArea.compact) fun _ _ => trivial

lemma tells_formatContainer (path passphrase : String) :
    (formatContainer path passphrase).Tells (KeyRule verifies) (fun _ _ => True) past := by
  rw [formatContainer]
  split_ifs
  · exact tells_then (tells_formatLuks2Keyless path KeyslotsArea.default) fun _ _ => trivial
  · exact tells_then (tells_formatLuks2 path passphrase KeyslotsArea.default) fun _ _ => trivial

lemma tells_formatDevice (device passphrase : String) (partition : Bool) :
    (formatDevice device passphrase partition).Tells (KeyRule verifies) (fun _ _ => True) past := by
  have hmapErr : ∀ (path : String) (past : List (Answered Cmd Reply)),
      ((formatLuks2Removable path passphrase).mapErr fun e => "luksFormat failed: " ++ e).Tells
        (KeyRule verifies) (fun _ _ => True) past := fun path past =>
    Tells.mapErr (tells_formatLuks2Removable path passphrase)
  refine tells_then (tells_free (allCalls_ask.mpr trivial)) fun wiped past₁ =>
    tells_then (tells_orFail trivial) fun _ past₂ => ?_
  cases partition with
  | true => exact tells_then (hmapErr device past₂) fun _ _ => trivial
  | false =>
      refine tells_then (tells_free (allCalls_ask.mpr trivial)) fun zapped past₃ =>
        tells_then (tells_orFail trivial) fun _ past₄ => ?_
      have hwait : (waitForPartitionNode device (firstPartitionPath device)).AllCalls
          Cmd.Keyless := by
        refine (waitForPartitionNode_waits device _).mono fun c hc => ?_
        exact Cmd.keyless_of (fun _ _ h => h) (fun _ _ _ h => h) hc
      refine tells_then (tells_free hwait) fun found past₅ => ?_
      cases found with
      | true => exact tells_then (hmapErr (firstPartitionPath device) past₅) fun _ _ => trivial
      | false => trivial

lemma tells_opFormatPartition (device passphrase : String) :
    (opFormatPartition device passphrase).Tells (KeyRule verifies) (fun _ _ => True) past := by
  have hformat : (formatRemovablePartition device passphrase).Tells (KeyRule verifies)
      (fun _ _ => True) past := by
    refine tells_then (tells_then (tells_free (allCalls_ask.mpr trivial)) fun _ _ => trivial)
      fun removable past₁ => ?_
    cases removable with
    | true =>
        exact tells_then (tells_free (allCalls_ask.mpr trivial)) fun partition past₂ =>
          tells_formatDevice device passphrase partition
    | false => trivial
  refine tells_then (Tells.attempt hformat) fun x past' => ?_
  cases x with
  | ok partition => trivial
  | error e => trivial

/-- An answer in megabytes has the evidence of its body. -/
lemma tells_runCreate {body : Op ℤ} (h : body.Tells (KeyRule verifies) (fun _ _ => True) past) :
    (runCreate body).Tells (KeyRule verifies) (fun _ _ => True) past := by
  refine tells_then (Tells.attempt h) fun x past' => ?_
  cases x with
  | ok keyslot => trivial
  | error e => trivial

lemma tells_createContainer (realPath : String) (sizeMb : ℤ) (passphrase : String)
    (owner : Option (ℕ × ℕ)) :
    (createContainer realPath sizeMb passphrase owner).Tells (KeyRule verifies) (fun _ _ => True)
      past := by
  have hcreate : (createImageFile realPath sizeMb).AllCalls Cmd.Keyless :=
    createImageFile_allCalls trivial (fun _ => trivial) fun _ _ => trivial
  refine tells_then (tells_free hcreate) fun _ past₁ =>
    tells_then (tells_formatContainer realPath passphrase) fun keyslot past₂ =>
      tells_then ?_ fun _ _ => trivial
  cases owner with
  | none => trivial
  | some ids => exact tells_then (tells_free (allCalls_ask.mpr trivial)) fun _ _ => tells_orFail trivial

lemma tells_opCreateEncryptedImage (realPath : String) (sizeMb : ℤ) (passphrase : String)
    (owner : Option (ℕ × ℕ)) :
    (opCreateEncryptedImage realPath sizeMb passphrase owner).Tells (KeyRule verifies)
      (fun _ _ => True) past := by
  refine tells_then (tells_free (allCalls_ask.mpr trivial)) fun present past₁ => ?_
  split_ifs
  · refine tells_then (tells_free (allCalls_ask.mpr trivial)) fun file past₂ => ?_
    split_ifs
    · trivial
    · trivial
  · exact tells_runCreate (tells_createContainer realPath sizeMb passphrase owner)
  · trivial

end Rule

/-! ## Calls

Every method by its body, with what its answer needs.
-/

/-- What comes over the bus: a method on an existing volume, or one of the other requests. -/
inductive ServiceCall : Type
  | volume (device : String) (m : VolumeOp)
  | request (r : Request)

/-- The methods that change keyslots. -/
def VolumeOp.Changes : VolumeOp → Prop
  | enrollFido2 _ _ _ _ _ => True
  | enrollTpm2 _ _ _ _ _ => True
  | enrollRecoveryKey _ _ _ => True
  | enrollPassphrase _ _ _ _ => True
  | wipeSlot _ _ _ _ => True
  | _ => False

namespace ServiceCall

/-- What a call does; answers are kept for the methods on volumes. -/
def body : ServiceCall → Op (Option Answer)
  | volume device m => do return some (← m.body device)
  | request r => do
      r.body
      return none

/-- The call is `VerifyPassphrase` or `UnlockWithToken` on this device. -/
def Verifies : ServiceCall → String → Prop
  | volume device (VolumeOp.verifyPassphrase _), d => device = d
  | volume device (VolumeOp.unlockWithToken _ _), d => device = d
  | request (Request.verifyPassphrase device _), d => device = d
  | request (Request.unlockWithToken device _ _), d => device = d
  | _, _ => False

end ServiceCall

/-- An answer that needs the volume key: that it is cached, or that the enrollment or wipe is
done. -/
def VolumeOp.NeedsKey (m : VolumeOp) (a : Answer) : Prop :=
  a = Answer.flag true ∨ m.Changes ∧ ∃ t : Triple, a = Answer.triple t ∧ t.1 = true

/-- How the answers look: whether the key is cached is a flag, and an enrollment or a wipe comes back as
a triple whatever happens to it. -/
def VolumeOp.Form (m : VolumeOp) (x : Except String (Option Answer)) : Prop :=
  (m = VolumeOp.isVolumeKeyCached → ∃ b, x = Except.ok (some (Answer.flag b))) ∧
    (m.Changes → ∃ t, x = Except.ok (some (Answer.triple t)))

/-- Whoever gives an answer that needs the key was given the key. -/
def ServiceCall.Answers : ServiceCall → Except String (Option Answer) →
    List (Answered Cmd Reply) → Prop
  | volume device m, x, past => m.Form x ∧
      ∀ a, x = Except.ok (some a) → m.NeedsKey a → ∃ vk, GotKey device vk past
  | request _, _, _ => True

section Calls

variable {verifies : String → Prop} {device : String} {past : List (Answered Cmd Reply)} {α : Type}

lemma tells_wrapped {m : VolumeOp} {p : Op α} {wrap : α → Answer}
    (hp : p.Tells (KeyRule verifies) (fun x past' => ∀ b, x = Except.ok b → m.NeedsKey (wrap b) →
      ∃ vk, GotKey device vk past') past) :
    (p.bind fun b => Prog.ret (wrap b)).Tells (KeyRule verifies)
      (fun x past' => ∀ a, x = Except.ok a → m.NeedsKey a → ∃ vk, GotKey device vk past') past := by
  refine Tells.bind (Tells.mono (fun x past' hx => ?_) hp)
  cases x with
  | error e => exact fun a hok => by simp at hok
  | ok b =>
      rintro a hok hneeds
      obtain rfl := Except.ok.inj hok
      exact hx b rfl hneeds

lemma tells_wrapped_free {m : VolumeOp} {p : Op α} {wrap : α → Answer}
    (hwrap : ∀ b, ¬ m.NeedsKey (wrap b)) (hp : p.Tells (KeyRule verifies) (fun _ _ => True) past) :
    (p.bind fun b => Prog.ret (wrap b)).Tells (KeyRule verifies)
      (fun x past' => ∀ a, x = Except.ok a → m.NeedsKey a → ∃ vk, GotKey device vk past') past :=
  tells_wrapped (Tells.mono (fun _ _ _ b _ hneeds => absurd hneeds (hwrap b)) hp)

/-- An answer with a slot has the evidence of its body. -/
lemma tells_foundSlot {m : VolumeOp} {p : Op ℕ}
    (hp : p.Tells (KeyRule verifies) (fun _ _ => True) past) :
    (foundSlot p).Tells (KeyRule verifies)
      (fun x past' => ∀ a, x = Except.ok a → m.NeedsKey a → ∃ vk, GotKey device vk past') past := by
  refine Tells.bind (Tells.attempt (Tells.mono (fun x past' _ => ?_) hp))
  cases x with
  | ok slot =>
      rintro a hok hneeds
      obtain rfl := Except.ok.inj hok
      simp [VolumeOp.NeedsKey] at hneeds
  | error e =>
      rintro a hok hneeds
      obtain rfl := Except.ok.inj hok
      simp [VolumeOp.NeedsKey] at hneeds

/-- Triples of the methods that change keyslots. -/
lemma tells_triple {m : VolumeOp} {p : Op Triple}
    (hp : p.Tells (KeyRule verifies)
      (fun x past' => ∀ t, x = Except.ok t → t.1 = true → ∃ vk, GotKey device vk past') past) :
    (p.bind fun t => Prog.ret (Answer.triple t)).Tells (KeyRule verifies)
      (fun x past' => ∀ a, x = Except.ok a → m.NeedsKey a → ∃ vk, GotKey device vk past') past := by
  refine tells_wrapped (Tells.mono (fun x past' hx t hok hneeds => ?_) hp)
  rcases hneeds with hflag | ⟨-, t', ht, hdone⟩
  · cases hflag
  · obtain rfl := Answer.triple.inj ht
    exact hx t hok hdone

/-- An enrollment or a wipe that is done was given the key. -/
lemma SlotRequest.tells (r : SlotRequest) :
    r.body.Tells (KeyRule verifies)
      (fun x past' => ∀ t, x = Except.ok t → t.1 = true → ∃ vk, GotKey r.device vk past') past := by
  cases r with
  | enrollFido2 device passphrase pin fido2Device unlockMethod unlockPin =>
      refine tells_done (Tells.bind (Tells.mono (fun x past₁ _ => ?_)
        (tells_looks (alreadyEnrolled_looks device fido2Device))))
      cases x with
      | error e => exact fun t hok => by simp at hok
      | ok enrolled =>
          cases enrolled with
          | true =>
              rintro t hok hdone
              obtain rfl := Except.ok.inj hok
              simp at hdone
          | false =>
              exact Tells.mono (fun _ _ h t hok _ => h t hok)
                (tells_enrolled (prepareFido2_looks fido2Device pin) unlockMethod unlockPin
                  passphrase)
  | enrollTpm2 device passphrase pin pcrs unlockMethod unlockPin =>
      exact tells_done (Tells.mono (fun _ _ h t hok _ => h t hok)
        (tells_enrolled (prepareTpm2_looks pcrs pin) unlockMethod unlockPin passphrase))
  | enrollRecoveryKey device passphrase unlockMethod unlockPin =>
      exact tells_done (Tells.mono (fun _ _ h t hok _ => h t hok)
        (tells_enrolled prepareRecoveryKey_looks unlockMethod unlockPin passphrase))
  | enrollPassphrase device existingPassphrase newPassphrase unlockMethod unlockPin =>
      refine tells_done (Tells.bind (Tells.mono (fun x past₁ h₁ => ?_)
        (tells_getVolumeKey unlockMethod existingPassphrase unlockPin)))
      cases x with
      | error e => exact fun t hok => by simp at hok
      | ok vk =>
          have hkey := h₁.2 vk rfl
          refine Tells.bind (Tells.mono (fun x past₂ h₂ => ?_)
            (tells_addKeyslot hkey (asBytes newPassphrase) false))
          cases x with
          | error e => exact fun t hok => by simp at hok
          | ok keyslot => exact fun t _ _ => ⟨vk, hkey.mono h₂.subset⟩
  | wipeSlot device passphrase unlockMethod pin slot =>
      exact tells_opWipeSlot passphrase unlockMethod pin slot

/-- **A method on a volume** keeps the rule, and answers only what it can. -/
lemma VolumeOp.tells (m : VolumeOp) (device : String) (past : List (Answered Cmd Reply)) :
    (m.body device).Tells (KeyRule (ServiceCall.volume device m).Verifies)
      (fun x past' => ∀ a, x = Except.ok a → m.NeedsKey a → ∃ vk, GotKey device vk past') past := by
  have hlooks : ∀ {β : Type} {p : Op β} {V : String → Prop}, p.AllCalls (Cmd.LooksOn device) →
      p.Tells (KeyRule V) (fun _ _ => True) past := fun hp =>
    Tells.mono (fun _ _ _ => trivial) (tells_looks hp)
  cases m with
  | getKeyslots =>
      refine tells_wrapped_free (by simp [VolumeOp.NeedsKey]) (hlooks ?_)
      exact AllCalls.bind (listKeyslots_looks device) fun _ => trivial
  | getTokensByType tokenType =>
      refine tells_wrapped_free (by simp [VolumeOp.NeedsKey]) (hlooks ?_)
      exact AllCalls.bind (metadataJson_looks device) fun _ => trivial
  | findPasswordKeyslots =>
      refine tells_wrapped_free (by simp [VolumeOp.NeedsKey]) (hlooks ?_)
      exact AllCalls.bind (metadataJson_looks device) fun _ => trivial
  | isVolumeKeyCached =>
      refine tells_wrapped ⟨trivial, fun cached => ?_⟩
      rintro b hok hneeds
      cases cached with
      | some vk => exact ⟨vk, Or.inl (List.mem_cons_self ..)⟩
      | none =>
          obtain rfl := Except.ok.inj hok
          simp [VolumeOp.NeedsKey] at hneeds
  | checkFido2Enrolled paths =>
      exact tells_wrapped_free (by simp [VolumeOp.NeedsKey])
        (hlooks (opCheckFido2Enrolled_looks device paths))
  | verifyPassphrase passphrase => exact tells_foundSlot (tells_verifyPassphrase rfl passphrase)
  | unlockWithToken tokenType pin =>
      simp only [VolumeOp.body]
      split_ifs
      · rintro a hok hneeds
        obtain rfl := Except.ok.inj hok
        simp [VolumeOp.NeedsKey] at hneeds
      · exact tells_foundSlot (tells_verifyToken rfl tokenType pin)
  | openVolume name passphrase unlockMethod unlockPin =>
      refine tells_wrapped_free (by simp [VolumeOp.NeedsKey, VolumeOp.Changes]) ?_
      refine tells_then (Tells.attempt (tells_activateVolume name unlockMethod passphrase unlockPin))
        fun x past' => ?_
      cases x with
      | ok u => trivial
      | error e => trivial
  | enrollFido2 passphrase pin fido2Device unlockMethod unlockPin =>
      exact tells_triple (SlotRequest.enrollFido2 device passphrase pin fido2Device unlockMethod
        unlockPin).tells
  | enrollTpm2 passphrase pin pcrs unlockMethod unlockPin =>
      exact tells_triple (SlotRequest.enrollTpm2 device passphrase pin pcrs unlockMethod
        unlockPin).tells
  | enrollRecoveryKey passphrase unlockMethod unlockPin =>
      exact tells_triple (SlotRequest.enrollRecoveryKey device passphrase unlockMethod
        unlockPin).tells
  | enrollPassphrase existingPassphrase newPassphrase unlockMethod unlockPin =>
      exact tells_triple (SlotRequest.enrollPassphrase device existingPassphrase newPassphrase
        unlockMethod unlockPin).tells
  | wipeSlot passphrase unlockMethod pin slot =>
      exact tells_triple (SlotRequest.wipeSlot device passphrase unlockMethod pin slot).tells

/-- The result of every method has the form that its callers rely on. -/
lemma VolumeOp.settles (m : VolumeOp) (device : String) (past : List (Answered Cmd Reply)) :
    (ServiceCall.volume device m).body.Tells (fun _ _ => True) (fun x _ => m.Form x) past := by
  by_cases hchanges : m.Changes
  · have hcached : m ≠ VolumeOp.isVolumeKeyCached := by
      rintro rfl
      exact hchanges
    have htriple : ∀ body : Op Triple,
        (((runOp body).bind fun t => Prog.ret (Answer.triple t)).bind fun a => Prog.ret (some a)).Tells
          (fun _ _ => True) (fun x _ => m.Form x) past := by
      intro body
      refine Tells.bind (Tells.bind (Tells.bind (Tells.attempt ?_)))
      refine Prog.tells_of_ends (fun x past' => ?_) body past
      cases x with
      | ok t => exact ⟨fun h => absurd h hcached, fun _ => ⟨t, rfl⟩⟩
      | error e => exact ⟨fun h => absurd h hcached, fun _ => ⟨opFailed, rfl⟩⟩
    cases m with
    | enrollFido2 passphrase pin fido2Device unlockMethod unlockPin => exact htriple _
    | enrollTpm2 passphrase pin pcrs unlockMethod unlockPin => exact htriple _
    | enrollRecoveryKey passphrase unlockMethod unlockPin => exact htriple _
    | enrollPassphrase existingPassphrase newPassphrase unlockMethod unlockPin => exact htriple _
    | wipeSlot passphrase unlockMethod pin slot => exact htriple _
    | _ => exact hchanges.elim
  · by_cases hcached : m = VolumeOp.isVolumeKeyCached
    · subst hcached
      exact ⟨trivial, fun cached => ⟨fun _ => ⟨cached.isSome, rfl⟩, fun h => absurd h hchanges⟩⟩
    · refine Prog.tells_of_ends (fun x past' => ?_) _ past
      exact ⟨fun h => absurd h hcached, fun h => absurd h hchanges⟩

/-- **The other requests** keep the rule. -/
lemma Request.tells (r : Request) (past : List (Answered Cmd Reply)) :
    r.body.Tells (KeyRule (ServiceCall.request r).Verifies) (fun _ _ => True) past := by
  have hcloses : ∀ {β : Type} {p : Op β} {V : String → Prop}, p.AllCalls Cmd.Closes →
      p.Tells (KeyRule V) (fun _ _ => True) past := by
    intro β p V hp
    refine tells_free (hp.mono fun c hc => ?_)
    exact Cmd.keyless_of (fun _ _ h => h) (fun _ _ _ h => h) hc
  cases r with
  | slot r =>
      exact tells_then (Tells.mono (fun _ _ _ => trivial) r.tells) fun _ _ => trivial
  | verifyPassphrase device passphrase =>
      exact tells_then (tells_verifyPassphrase rfl passphrase) fun _ _ => trivial
  | unlockWithToken device tokenType pin =>
      exact tells_then (tells_verifyToken rfl tokenType pin) fun _ _ => trivial
  | openVolume device name passphrase unlockMethod unlockPin =>
      refine tells_then (tells_then (Tells.attempt
        (tells_activateVolume name unlockMethod passphrase unlockPin)) fun x past' => ?_)
        fun _ _ => trivial
      cases x with
      | ok u => trivial
      | error e => trivial
  | closeVolume name =>
      refine tells_then (tells_then (Tells.attempt (hcloses (deactivateVolume_closes name)))
        fun x past' => ?_) fun _ _ => trivial
      cases x with
      | ok u => trivial
      | error e => trivial
  | closeVolumeFd found => exact hcloses (deactivateVolumes_closes found)
  | createEncryptedImage realPath sizeMb passphrase owner =>
      exact tells_then (tells_opCreateEncryptedImage realPath sizeMb passphrase owner)
        fun _ _ => trivial
  | createImageFd path passphrase =>
      exact tells_then (tells_runCreate (tells_formatContainer path passphrase)) fun _ _ => trivial
  | formatPartition device passphrase =>
      exact tells_then (tells_opFormatPartition device passphrase) fun _ _ => trivial

/-- **Every call** keeps the rule, and answers only what it can. -/
theorem ServiceCall.tells (call : ServiceCall) (past : List (Answered Cmd Reply)) :
    call.body.Tells (KeyRule call.Verifies) call.Answers past := by
  cases call with
  | volume device m =>
      have hneeds : (ServiceCall.volume device m).body.Tells
          (KeyRule (ServiceCall.volume device m).Verifies) (fun x past' =>
            ∀ a, x = Except.ok (some a) → m.NeedsKey a → ∃ vk, GotKey device vk past') past := by
        refine Tells.bind (Tells.mono (fun x past' hx => ?_) (m.tells device past))
        cases x with
        | error e => exact fun a hok => by simp at hok
        | ok a =>
            rintro a' hok hneeds
            obtain rfl : a = a' := Option.some.inj (Except.ok.inj hok)
            exact hx a rfl hneeds
      exact Tells.mono (fun _ _ h => ⟨h.2, h.1⟩) (hneeds.and (m.settles device past))
  | request r =>
      exact tells_then (r.tells past) fun _ _ => trivial

end Calls

end LuksEnroll
