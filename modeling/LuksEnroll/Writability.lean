import LuksEnroll.Concurrency
import LuksEnroll.Extraction
import LuksEnroll.Methods
import LuksEnroll.Unlocking
import LuksEnroll.Library.Refusals

/-!
# When a method writes to the header

Five of the methods on a volume are there to change its header: the four enrollments and the wipe.
Whether one of them gets as far as a write that succeeds depends on three things: that the credential
(or the cache) yields a volume key, that what the request brings along is in order, and that the header
has room for the keyslot that is to be added, or has the keyslot that is to be wiped.

`VolumeOp.CanWrite` says so as a predicate on the state and on the arguments, without running anything.
It is exact.  Where it holds, the calls can turn out so that the request changes the header
(`canWrite_changes`), which it never does where the header lies on a file system mounted read-only
(`mounted_keeps`).  Where it does not hold, every write that the request comes to fails, whatever the
calls do, so that it makes no difference whether writes are possible at all (`run_of_not_canWrite`).
-/

namespace LuksEnroll

open Library
open Prog (AllCalls Indifferent)

/-! ## The volume key

When credentials give a volume key: from the cache, or by a secret for which a keyslot of the header
opens.
-/

/-- The tokens of a type can be read from the metadata. -/
def Header.TokensParse (h : Header) (tokenType : String) : Prop :=
  if tokenType = tokenTypeFido2 then ∃ refs, fido2RefsFromMeta h.dump = Except.ok refs
  else ∃ refs, tpm2RefsFromMeta h.dump = Except.ok refs

/-- The credential can open a keyslot: the passphrase does, or a secret that the hardware behind a
token may hand out. -/
def Header.ColdOpens (h : Header) (unlockMethod passphrase : String) : Prop :=
  if unlockMethod = "passphrase" then ∃ i, h.opens (asBytes passphrase) i = true
  else h.TokensParse unlockMethod
    ∧ ∃ secret i, h.opens (asBytes (Base64.encode secret)) i = true

/-- `get_volume_key` can yield this key: it is the one in the cache, or the header's. -/
def World.Gives (w : World) (device : String) (h : Header) (unlockMethod passphrase : String)
    (vk : VolumeKey) : Prop :=
  validUnlockMethod unlockMethod = true
    ∧ (w.cachedKey device = some vk ∨ vk = h.volumeKey ∧ h.ColdOpens unlockMethod passphrase)

/-! ## The condition

By method: an enrollment needs a key and room, a wipe needs a key, a keyslot to wipe, and its guard.
-/

/-- An enrollment can add its keyslot: it gets the key of the header, and there is room. -/
def World.CanAdd (w : World) (device unlockMethod passphrase : String) : Prop :=
  ∃ h, w.header device = some h ∧ w.Gives device h unlockMethod passphrase h.volumeKey
    ∧ ∃ i < keyslotsMax, h.keyslots i = none

/-- **When a method can write to the header.** -/
def VolumeOp.CanWrite (w : World) (device : String) : VolumeOp → Prop
  | VolumeOp.enrollFido2 passphrase _ _ unlockMethod _ => w.CanAdd device unlockMethod passphrase
  | VolumeOp.enrollTpm2 passphrase _ pcrs unlockMethod _ =>
      w.CanAdd device unlockMethod passphrase ∧ ∃ list, pcrList pcrs = Except.ok list
  | VolumeOp.enrollRecoveryKey passphrase unlockMethod _ => w.CanAdd device unlockMethod passphrase
  | VolumeOp.enrollPassphrase existing _ unlockMethod _ => w.CanAdd device unlockMethod existing
  | VolumeOp.wipeSlot passphrase unlockMethod _ slot =>
      ∃ h vk, w.header device = some h ∧ w.Gives device h unlockMethod passphrase vk
        ∧ (h.keyslots (asU32 slot.val)).isSome
  | _ => False

/-! ## Where the key comes from

A key that a run comes by is one that the credentials give.
-/

section Gives

variable {who : Option ℕ} {A : Oracle → Prop} {device : String} {w : World} {h : Header}

/-- A candidate that gives a key opens the header. -/
lemma tryCandidates_opens (loaded : Header) (pw : Bytes) (slots : List (Option ℕ))
    (lastErr : Option String) (v : World) :
    (tryCandidates loaded pw slots lastErr).wp (exec who) A
      (fun x _ => ∀ r, x = Except.ok r → loaded.opens pw r.1 = true) v := by
  induction slots generalizing lastErr v with
  | nil =>
      intro r hr
      cases hr
  | cons slot rest ih =>
      refine tryCandidates_cons (fun o found _ hfound r hr => ?_) (fun o e _ _ => ih (some e) _)
      obtain rfl := Except.ok.inj hr
      exact volumeKeyGet_opens hfound

/-- The header that a session loads is the one that is there. -/
lemma openLuks2_loads (hh : w.header device = some h) :
    (openLuks2 device).wp (exec who) A
      (fun x v => w.Later v ∧ ∀ loaded, x = Except.ok loaded → loaded = h) w := by
  refine Prog.wp_mono (fun x v hx => ⟨hx.1, fun loaded hloaded => ?_⟩)
    (Prog.wp_and (wp_looksOn (openLuks2_looks device) w) (openLuks2_spec w))
  rw [hloaded] at hx
  exact Option.some.inj (hx.2.2.symm.trans hh)

lemma extractTokenVolumeKey_opens (hh : w.header device = some h) (tokenType : String) (pw : Bytes) :
    (extractTokenVolumeKey device tokenType pw).wp (exec who) A
      (fun x _ => ∀ r, x = Except.ok r → h.opens pw r.1 = true) w := by
  refine Prog.wp_bind (Prog.wp_mono (fun x v hx => ?_) (openLuks2_loads hh))
  cases x with
  | error e => exact fun r hr => by cases hr
  | ok loaded =>
      obtain rfl := hx.2 loaded rfl
      exact fun o _ => tryCandidates_opens loaded pw _ none _

/-- References to tokens come out of metadata that parses. -/
lemma tokenRefs_parses {α : Type} (hh : w.header device = some h)
    (read : Json → Except String (List α)) :
    (tokenRefs read device).wp (exec who) A
      (fun x v => w.Later v ∧ ∀ refs, x = Except.ok refs → read h.dump = Except.ok refs) w := by
  refine Prog.wp_and (wp_looksOn (tokenRefs_looks read device) w) ?_
  refine Prog.wp_bind (Prog.wp_mono (fun x v hx => ?_) (metadataJson_spec w))
  obtain ⟨-, m, rfl, hm⟩ := hx
  cases m with
  | none => exact fun refs hrefs => by cases hrefs
  | some metadata =>
      obtain ⟨h', hh', rfl⟩ := hm
      obtain rfl : h = h' := Option.some.inj (hh.symm.trans hh')
      show (Prog.ofExcept (read h.dump)).wp _ _ _ _
      cases read h.dump with
      | ok found => exact fun refs hrefs => hrefs
      | error e => exact fun refs hrefs => by cases hrefs

/-- A derived passphrase is the text of a secret, and the tokens it belongs to could be read. -/
lemma derivePassphraseFromToken_parses (hh : w.header device = some h) (tokenType pin : String) :
    (derivePassphraseFromToken device tokenType pin).wp (exec who) A
      (fun x v => w.Later v ∧ ∀ pw, x = Except.ok pw → h.TokensParse tokenType
        ∧ ∃ secret, pw = asBytes (Base64.encode secret)) w := by
  refine Prog.wp_and (wp_looksOn (derivePassphraseFromToken_looks device tokenType pin) w) ?_
  rw [derivePassphraseFromToken, rawTokenSecret]
  -- what the hardware hands out is the secret
  split_ifs with hfido htpm
  · refine Prog.wp_bind (Prog.wp_bind (Prog.wp_mono (fun x v hx => ?_)
      (tokenRefs_parses hh fido2RefsFromMeta)))
    cases x with
    | error e => exact fun pw hpw => by cases hpw
    | ok refs =>
        have hparse : h.TokensParse tokenType := by
          rw [Header.TokensParse, if_pos hfido]
          exact ⟨refs, hx.2 refs rfl⟩
        refine wp_ask_orFail_last (c := Cmd.fido2UnlockFromTokens refs pin) (r := id) (fun o secret _ _ => ?_)
          (fun o e _ _ => ?_)
        · exact fun pw hpw => ⟨hparse, secret, (Except.ok.inj hpw).symm⟩
        · exact fun pw hpw => by cases hpw
  · refine Prog.wp_bind (Prog.wp_bind (Prog.wp_mono (fun x v hx => ?_)
      (tokenRefs_parses hh tpm2RefsFromMeta)))
    cases x with
    | error e => exact fun pw hpw => by cases hpw
    | ok refs =>
        have hparse : h.TokensParse tokenType := by
          rw [Header.TokensParse, if_neg hfido]
          exact ⟨refs, hx.2 refs rfl⟩
        refine wp_ask_orFail_last (c := Cmd.tpm2UnsealFromTokens refs pin) (r := id) (fun o secret _ _ => ?_)
          (fun o e _ _ => ?_)
        · exact fun pw hpw => ⟨hparse, secret, (Except.ok.inj hpw).symm⟩
        · exact fun pw hpw => by cases hpw
  · exact fun pw hpw => by cases hpw

/-- A key that was not in the cache: a credential opened a keyslot. -/
lemma coldVolumeKey_opens (hh : w.header device = some h) (unlockMethod passphrase pin : String) :
    (coldVolumeKey device unlockMethod passphrase pin).wp (exec who) A
      (fun x _ => ∀ vk, x = Except.ok vk → h.ColdOpens unlockMethod passphrase) w := by
  rw [coldVolumeKey]
  split_ifs with hmethod
  · refine Prog.wp_bind (Prog.wp_mono (fun x v hx => ?_)
      (derivePassphraseFromToken_parses hh unlockMethod pin))
    obtain ⟨hlater, htext⟩ := hx
    cases x with
    | error e => exact fun vk hvk => by cases hvk
    | ok pw =>
        obtain ⟨hparse, secret, rfl⟩ := htext pw rfl
        have hheader : v.header device = some h := (hlater.header device).trans hh
        refine Prog.wp_bind (Prog.wp_mapErr (Prog.wp_mono (fun y v' hy => ?_)
          (extractTokenVolumeKey_opens hheader unlockMethod (asBytes (Base64.encode secret)))))
        cases y with
        | error e => exact fun vk hvk => by cases hvk
        | ok r =>
            intro vk _
            rw [Header.ColdOpens, if_neg hmethod]
            exact ⟨hparse, secret, r.1, hy r rfl⟩
  · refine Prog.wp_bind (Prog.wp_mono (fun x v hx => ?_) (openLuks2_loads hh))
    cases x with
    | error e => exact fun vk hvk => by cases hvk
    | ok loaded =>
        obtain rfl := hx.2 loaded rfl
        refine wp_ask_orFail (c := Cmd.volumeKeyGet loaded none (asBytes passphrase)) (r := id)
          (fun o r _ hr => ?_) (fun o e _ _ => ?_)
        · intro vk _
          rw [Header.ColdOpens, if_pos (not_not.mp hmethod)]
          exact ⟨r.1, volumeKeyGet_opens hr⟩
        · exact fun vk hvk => by cases hvk

/-- **What `get_volume_key` can yield.** -/
lemma getVolumeKey_gives (hh : w.header device = some h) (unlockMethod passphrase pin : String) :
    (getVolumeKey device unlockMethod passphrase pin).wp (exec who) A
      (fun x v => w.SameDisk v ∧ ∀ vk, x = Except.ok vk → w.Gives device h unlockMethod passphrase vk)
      w := by
  refine Prog.wp_and (wp_readsOn (getVolumeKey_reads device unlockMethod passphrase pin) w) ?_
  rw [getVolumeKey]
  split_ifs with hvalid
  · intro o _
    have hget := @cacheGet_cachedFrom who device o w
    cases hx : (exec who (Cmd.cacheGet device) o w).1 with
    | some vk =>
        intro vk' hvk'
        obtain rfl := Except.ok.inj hvk'
        exact ⟨hvalid, Or.inl (cacheGet_some hx)⟩
    | none =>
        generalize (exec who (Cmd.cacheGet device) o w).2 = v at hget
        have hheader : v.header device = some h := (hget.disk.header device).trans hh
        show Prog.wp _ _ _ ((coldVolumeKey device unlockMethod passphrase pin).bind _) _
        refine Prog.wp_bind (Prog.wp_mono (fun x v' hcold => ?_)
          (Prog.wp_and (coldVolumeKey_key unlockMethod passphrase pin v)
            (coldVolumeKey_opens hheader unlockMethod passphrase pin)))
        obtain ⟨⟨-, hkey⟩, hopens⟩ := hcold
        cases x with
        | error e => exact fun vk hvk => by cases hvk
        | ok vk =>
            intro o' _ vk' hvk'
            obtain rfl := Except.ok.inj hvk'
            obtain ⟨h', hh', hvk, -⟩ := hkey vk rfl
            obtain rfl : h = h' := Option.some.inj (hheader.symm.trans hh')
            exact ⟨hvalid, Or.inr ⟨hvk.symm, hopens vk rfl⟩⟩
  · exact fun vk hvk => by cases hvk

end Gives

/-! ## Refusing writes

A mount refuses writes to the header.  A request that has no write to come to, or only such as would
fail, does not notice.
-/

/-- The device whose header a command rewrites, for which it opens the file for writing. -/
def Cmd.headerWrite : Cmd → Option String
  | Cmd.addByKey device _ _ => some device
  | Cmd.tokenJsonSet device _ => some device
  | Cmd.keyslotDestroy device _ => some device
  | _ => none

/-- What a file system mounted read-only does to such a command: `EROFS`. -/
def refuseWrite (o : Oracle) : Oracle :=
  { o with fault := some "Read-only file system (os error 30)" }

/-- The header writes that a mount refuses; `readOnly` says which paths lead through a read-only one. -/
def refusedBy (readOnly : String → Bool) (c : Cmd) : Bool := (c.headerWrite.map readOnly).getD false

/-- The answers to commands in a mount namespace.  Reading a file, and activating it, which falls back
to a read-only loop device, go on as they do on any mount. -/
def mountedExec (who : Option ℕ) (readOnly : String → Bool) : Handler Cmd Reply Oracle World :=
  refusing (exec who) (refusedBy readOnly) refuseWrite

section Refused

variable {who : Option ℕ} {readOnly : String → Bool} {device : String} {w : World} {h : Header}
  {α β : Type}

lemma refusedBy_reads {c : Cmd} (hc : c.ReadsOn device) : refusedBy readOnly c = false := by
  cases c with
  | addByKey d vk pw => exact hc.elim
  | tokenJsonSet d input => exact hc.elim
  | keyslotDestroy d slot => exact hc.elim
  | _ => rfl

lemma indifferent_reads {p : Op α} {Q : Except String α → World → Prop}
    (hp : p.AllCalls (Cmd.ReadsOn device)) (hQ : p.wp (exec who) (fun _ => True) Q w) :
    p.Indifferent (exec who) (refusedBy readOnly) refuseWrite (fun a v => Q (Except.ok a) v) w :=
  Indifferent.of_allCalls (hp.mono fun _ hc => refusedBy_reads hc) hQ

/-- A write that fails whatever happens, at the end of a session. -/
lemma indifferent_write {c : Cmd} {r : Reply c → Except String α} {word : String → String}
    {Q : α → World → Prop}
    (hfails : ∀ o, (∃ e, r (exec who c o w).1 = Except.error e)
      ∧ (exec who c o w).2 = { w with now := w.now + o.elapsed }) :
    ((ask c).bind fun x => orFail (r x) word).Indifferent (exec who) (refusedBy readOnly) refuseWrite
      Q w := by
  have hends : ∀ o, ∃ e, (orFail (r (exec who c o w).1) word : Op α) = Prog.fail e := by
    intro o
    obtain ⟨⟨e, he⟩, -⟩ := hfails o
    exact ⟨word e, by rw [he]; rfl⟩
  intro o
  split_ifs
  · exact ⟨hends o, hends (refuseWrite o), (hfails (refuseWrite o)).2.trans (hfails o).2.symm⟩
  · obtain ⟨e, he⟩ := hends o
    show Indifferent _ _ _ _ (orFail (r (exec who c o w).1) word) _
    rw [he]
    trivial

/-- A header write that libcryptsetup turns down fails and changes nothing. -/
lemma update_turned_down {f : Header → Except String (α × Header)} {o : Oracle} {v : World}
    (hf : ∀ h, v.header device = some h → ∀ r, f h ≠ Except.ok r) :
    (∃ e, (v.update device o f).1 = Except.error e) ∧ (v.update device o f).2 = v := by
  rcases World.update_cases v device o f with ⟨h, a, h', -, hh, hok, -⟩ | ⟨e, hres, -⟩
  · exact absurd hok (hf h hh _)
  · rw [hres]
    exact ⟨⟨e, rfl⟩, rfl⟩

/-- No keyslot can be added to a full header, and none with a wrong key. -/
lemma indifferent_addKeyslot {vk : VolumeKey} {pw : Bytes} {minimalPbkdf : Bool} {Q : ℕ → World → Prop}
    (hno : ∀ h, w.header device = some h → vk = h.volumeKey →
      ∀ i < keyslotsMax, (h.keyslots i).isSome) :
    (addKeyslotByVolumeKey device vk pw minimalPbkdf).Indifferent (exec who) (refusedBy readOnly)
      refuseWrite Q w := by
  refine Indifferent.bind (Indifferent.mono (fun loaded v hv => ?_)
    (indifferent_reads (reads_of_looks (openLuks2_looks device)) (openLuks2_spec w)))
  have hpbkdf := reads_of_looks (@choosePbkdf_looks device minimalPbkdf)
  refine Indifferent.bind (Indifferent.mono (fun _ v' hv' => ?_)
    (indifferent_reads hpbkdf (wp_readsOn hpbkdf v)))
  have hsame : w.SameDisk v' := hv.1.trans hv'
  refine indifferent_write (c := Cmd.addByKey device (some vk) pw) (r := id) fun o => ?_
  refine update_turned_down fun g hg r hadd => ?_
  have hg' : w.header device = some g := (hsame.header device).symm.trans hg
  rw [Header.addByKey] at hadd
  split_ifs at hadd with hkey
  cases hslot : g.addKeyslot o.pick (Header.newKeyslot who pw) with
  | none => simp [hslot] at hadd
  | some added =>
      obtain ⟨i, g'⟩ := added
      obtain ⟨hlt, hnone⟩ := freeIndex_some (Header.addKeyslot_spec hslot).1
      have hfull := hno g hg' hkey i hlt
      rw [hnone] at hfull
      cases hfull

/-- Time passing takes keys out of the cache, and brings none. -/
lemma World.Later.gives {w' : World} (hlater : w.Later w') {unlockMethod passphrase : String}
    {vk : VolumeKey} (hgives : w'.Gives device h unlockMethod passphrase vk) :
    w.Gives device h unlockMethod passphrase vk := by
  obtain ⟨d, rfl⟩ := hlater
  exact ⟨hgives.1, hgives.2.imp_left (live_of_later (Nat.le_add_right _ _))⟩

/-- What can be added later could be added before. -/
lemma World.Later.canAdd {w' : World} (hlater : w.Later w') {unlockMethod passphrase : String}
    (hadd : w'.CanAdd device unlockMethod passphrase) : w.CanAdd device unlockMethod passphrase := by
  obtain ⟨h, hh, hgives, hfree⟩ := hadd
  exact ⟨h, (hlater.header device).symm.trans hh, hlater.gives hgives, hfree⟩

/-- Unlocking, and adding a keyslot with the key. -/
lemma indifferent_addAuthorised {unlockMethod passphrase pin : String} {secret : Bytes}
    {minimalPbkdf : Bool} {f : ℕ → Op β} (hno : ¬ w.CanAdd device unlockMethod passphrase) :
    ((getVolumeKey device unlockMethod passphrase pin).bind fun vk =>
      (addKeyslotByVolumeKey device vk secret minimalPbkdf).bind f).Indifferent (exec who)
        (refusedBy readOnly) refuseWrite (fun _ _ => True) w := by
  have hkey : (getVolumeKey device unlockMethod passphrase pin).wp (exec who) (fun _ => True)
      (fun x v => w.SameDisk v ∧ ∀ vk, x = Except.ok vk → ∀ h, w.header device = some h →
        w.Gives device h unlockMethod passphrase vk) w := by
    cases hh : w.header device with
    | none =>
        refine Prog.wp_mono (fun x v hv => ⟨hv, fun vk _ h hsome => ?_⟩)
          (wp_readsOn (getVolumeKey_reads device unlockMethod passphrase pin) w)
        cases hsome
    | some h =>
        refine Prog.wp_mono (fun x v hv => ⟨hv.1, fun vk hvk h' hsome => ?_⟩)
          (getVolumeKey_gives hh unlockMethod passphrase pin)
        obtain rfl := Option.some.inj hsome
        exact hv.2 vk hvk
  refine Indifferent.bind (Indifferent.mono (fun vk v hv => ?_)
    (indifferent_reads (getVolumeKey_reads device unlockMethod passphrase pin) hkey))
  obtain ⟨hsame, hgives⟩ := hv
  refine Indifferent.bind (indifferent_addKeyslot fun h hh hvk i hi => ?_)
  have hh' : w.header device = some h := (hsame.header device).symm.trans hh
  by_contra hfree
  refine hno ⟨h, hh', hvk ▸ hgives vk rfl h hh', i, hi, ?_⟩
  simpa using hfree

lemma indifferent_enrollToken {unlockMethod pin passphrase : String} {prepare : Op Prepared}
    (hprepare : prepare.AllCalls (Cmd.LooksOn device))
    (hno : w.CanAdd device unlockMethod passphrase →
      prepare.wp (exec who) (fun _ => True) (fun x _ => ∀ a, x ≠ Except.ok a) w) :
    (enrollToken device unlockMethod pin passphrase prepare).Indifferent (exec who)
      (refusedBy readOnly) refuseWrite (fun _ _ => True) w := by
  have hreads := reads_of_looks hprepare
  by_cases hadd : w.CanAdd device unlockMethod passphrase
  · exact Indifferent.bind (Indifferent.mono (fun a v hv => absurd rfl (hv a))
      (indifferent_reads hreads (hno hadd)))
  · exact Indifferent.bind (Indifferent.mono
      (fun prepared v hv => indifferent_addAuthorised fun h => hadd (World.Later.canAdd hv h))
      (indifferent_reads hreads (wp_looksOn hprepare w)))

/-- Where the keyslot is not, no token lists it. -/
lemma tokenForKeyslotIn_absent {slot : ℤ} {m : Option Json}
    (hm : ∀ j, m = some j → ∃ h : Header, j = h.dump ∧ h.keyslots (asU32 slot) = none) :
    ¬ 0 ≤ tokenForKeyslotIn slot m := by
  cases m with
  | none => simp [tokenForKeyslotIn]
  | some j =>
      obtain ⟨h, rfl, hnone⟩ := hm j rfl
      rcases tokenForKeyslotIn_dump h slot with ⟨hfound, -⟩ | ⟨i, t, -, -, ht, k, hk, rfl⟩
      · rw [hfound]
        decide
      · have hslot := h.token_slots i t ht k hk
        have hlt := Header.lt_of_mem_slotIds (Header.mem_slotIds.mpr hslot)
        rw [asU32_natCast (lt_trans hlt (by decide))] at hnone
        rw [hnone] at hslot
        cases hslot

/-- The rest of a wipe, of a keyslot that is not there. -/
lemma indifferent_wipeRest {slot : ℤ}
    (hno : ∀ h, w.header device = some h → h.keyslots (asU32 slot) = none) :
    (wipeRest device slot).Indifferent (exec who) (refusedBy readOnly) refuseWrite
      (fun _ _ => True) w := by
  refine Indifferent.bind (Indifferent.mono (fun tokenId v hv => ?_)
    (indifferent_reads (reads_of_looks ((findTokenForKeyslot_session device slot).mono
      fun _ => Cmd.SessionOn.looks)) (findTokenForKeyslot_spec slot w)))
  obtain ⟨hsame, m, hfound, hm⟩ := hv
  obtain rfl := Except.ok.inj hfound
  have hnotoken : ¬ 0 ≤ tokenForKeyslotIn slot m := by
    refine tokenForKeyslotIn_absent fun j hj => ?_
    rw [hj] at hm
    obtain ⟨h, hh, rfl⟩ := hm
    exact ⟨h, rfl, hno h hh⟩
  rw [if_neg hnotoken]
  refine Indifferent.bind (p := destroyKeyslot device slot) (Indifferent.bind (Indifferent.mono
    (fun loaded v' hv' => ?_)
    (indifferent_reads (reads_of_looks (openLuks2_looks device)) (openLuks2_spec v))))
  have hsame' : w.SameDisk v' := hsame.trans hv'.1
  refine indifferent_write (c := Cmd.keyslotDestroy device (asU32 slot)) (r := id) fun o => ?_
  refine update_turned_down fun g hg r hdestroy => ?_
  have hgone := hno g ((hsame'.header device).symm.trans hg)
  obtain ⟨u, g'⟩ := r
  have hsome := (Header.destroyKeyslot_spec (keyslotDestroy_ok hdestroy)).1
  rw [hgone] at hsome
  cases hsome

/-- A wipe of a keyslot that is not there, or without a volume key. -/
lemma indifferent_wipe {passphrase unlockMethod pin : String} {slot : I32}
    (hno : ¬ (VolumeOp.wipeSlot passphrase unlockMethod pin slot).CanWrite w device) :
    ((getVolumeKey device unlockMethod passphrase pin).bind fun _ =>
      (listKeyslots device).bind fun slots =>
        if slots.entries.length ≤ 1 ∧ slot.val ∈ slots.keys then Prog.ret lastKeyslot
        else wipeRest device slot.val).Indifferent (exec who) (refusedBy readOnly) refuseWrite
          (fun _ _ => True) w := by
  have hkey : (getVolumeKey device unlockMethod passphrase pin).wp (exec who) (fun _ => True)
      (fun x v => w.SameDisk v ∧ ∀ vk, x = Except.ok vk → ∀ h, w.header device = some h →
        h.keyslots (asU32 slot.val) = none) w := by
    cases hh : w.header device with
    | none =>
        refine Prog.wp_mono (fun x v hv => ⟨hv, fun vk _ h hsome => ?_⟩)
          (wp_readsOn (getVolumeKey_reads device unlockMethod passphrase pin) w)
        cases hsome
    | some h =>
        refine Prog.wp_mono (fun x v hv => ⟨hv.1, fun vk hvk h' hsome => ?_⟩)
          (getVolumeKey_gives hh unlockMethod passphrase pin)
        obtain rfl := Option.some.inj hsome
        by_contra hslot
        exact hno ⟨h, vk, hh, hv.2 vk hvk, Option.isSome_iff_ne_none.mpr hslot⟩
  refine Indifferent.bind (Indifferent.mono (fun vk v hv => ?_)
    (indifferent_reads (getVolumeKey_reads device unlockMethod passphrase pin) hkey))
  refine Indifferent.bind (Indifferent.mono (fun slots v' hv' => ?_)
    (indifferent_reads (reads_of_looks (listKeyslots_looks device)) (listKeyslots_spec v)))
  split_ifs
  · trivial
  · refine indifferent_wipeRest fun h hh => hv.2 vk rfl h ?_
    exact ((hv.1.trans hv'.1).header device).symm.trans hh

lemma run_mounted {p : Op α} (hp : p.AllCalls fun c => c.headerWrite = none) (os : ℕ → Oracle) :
    p.run (mountedExec who readOnly) os w = p.run (exec who) os w := by
  refine Prog.run_congr (fun c hc => ?_) hp os w
  funext o v
  simp [mountedExec, refusing, refusedBy, hc]

/-- A request is answered by the outcome of its body. -/
lemma run_triple_of_indifferent {body : Op Triple}
    (hbody : body.Indifferent (exec who) (refusedBy readOnly) refuseWrite (fun _ _ => True) w)
    (os : ℕ → Oracle) :
    ((runOp body).bind fun t => Prog.ret (Answer.triple t)).run (mountedExec who readOnly) os w
      = ((runOp body).bind fun t => Prog.ret (Answer.triple t)).run (exec who) os w := by
  have hsame : withoutText (body.run (mountedExec who readOnly) os w)
      = withoutText (body.run (exec who) os w) := hbody.withoutText_eq os
  have hreported : ∀ x y : Except String Triple, x.toOption = y.toOption → reported x = reported y := by
    intro x y hxy
    cases x <;> cases y <;> simp_all [Except.toOption, reported]
  simp only [withoutText, Prod.mk.injEq] at hsame
  rw [Prog.run_bind_ok (runOp_run body os w), Prog.run_bind_ok (runOp_run body os w)]
  show (Except.ok (Answer.triple _), _) = (Except.ok (Answer.triple _), _)
  rw [hsame.2, hreported _ _ hsame.1]

end Refused

/-! ## What cannot write is not disturbed

The methods one by one.
-/

lemma headerWrite_of_opens {device : String} {c : Cmd} (hc : ∃ name, c.OpensOn device name) :
    c.headerWrite = none := by
  obtain ⟨name, hread | ⟨vk, rfl⟩⟩ := hc
  · cases c <;> first | rfl | exact hread.elim
  · rfl

/-- **A method that cannot write to the header does the same on a read-only mount.** -/
theorem VolumeOp.run_of_not_canWrite {who : Option ℕ} {readOnly : String → Bool} {device : String}
    {w : World} (m : VolumeOp) (hno : ¬ m.CanWrite w device) (os : ℕ → Oracle) :
    (m.body device).run (mountedExec who readOnly) os w = (m.body device).run (exec who) os w := by
  have hreads : m.slotRequest device = none →
      (m.body device).run (mountedExec who readOnly) os w = (m.body device).run (exec who) os w :=
    fun hnone => run_mounted ((VolumeOp.body_opens hnone).mono fun _ hc => headerWrite_of_opens hc) os
  cases m with
  | enrollFido2 passphrase pin fido2Device unlockMethod unlockPin =>
      refine run_triple_of_indifferent (Indifferent.bind (Indifferent.mono (fun enrolled v hv => ?_)
        (indifferent_reads (reads_of_looks (alreadyEnrolled_looks device fido2Device))
          (wp_looksOn (alreadyEnrolled_looks device fido2Device) w)))) os
      cases enrolled with
      | true => trivial
      | false =>
          exact indifferent_enrollToken (prepareFido2_looks fido2Device pin) fun hadd =>
            absurd (World.Later.canAdd hv hadd) hno
  | enrollTpm2 passphrase pin pcrs unlockMethod unlockPin =>
      refine run_triple_of_indifferent (indifferent_enrollToken (prepareTpm2_looks pcrs pin)
        fun hadd => ?_) os
      refine wp_ask_orFail (c := Cmd.getrandom 32) (r := id) (fun o secret _ _ => ?_)
        (fun o e _ _ a ha => by cases ha)
      refine wp_ask_orFail (c := Cmd.tpm2Seal secret pcrs pin) (r := id) (fun o result _ _ => ?_)
        (fun o e _ _ a ha => by cases ha)
      -- what stops the request is the PCR list
      cases hlist : pcrList pcrs with
      | error e => exact fun a ha => by cases ha
      | ok list => exact absurd ⟨hadd, list, hlist⟩ hno
  | enrollRecoveryKey passphrase unlockMethod unlockPin =>
      exact run_triple_of_indifferent (indifferent_enrollToken prepareRecoveryKey_looks fun hadd =>
        absurd hadd hno) os
  | enrollPassphrase existing new unlockMethod unlockPin =>
      exact run_triple_of_indifferent (indifferent_addAuthorised hno) os
  | wipeSlot passphrase unlockMethod pin slot =>
      exact run_triple_of_indifferent (indifferent_wipe hno) os
  | _ => exact hreads rfl

/-! ## What can write changes the header

The other direction, from the outside in: each call is said to turn out well, or to fail where that
helps.
-/

section Possible

variable {who : Option ℕ} {device : String} {w : World} {h : Header} {α β : Type} {c : Cmd}
  {r : Reply c → Except String α} {word : String → String}

/-- A fallible call that can succeed, followed by more. -/
lemma can_ask_orFail {k : α → Op β} {Q : Except String β → World → Prop} (o : Oracle) {a : α}
    (hr : r (exec who c o w).1 = Except.ok a) (hk : (k a).can (exec who) Q (exec who c o w).2) :
    ((ask c).bind fun x => (orFail (r x) word).bind k).can (exec who) Q w := by
  refine ⟨o, ?_⟩
  show ((orFail (r (exec who c o w).1) word).bind k).can _ _ _
  rw [hr]
  exact hk

lemma can_ask_orFail_last {Q : Except String α → World → Prop} (o : Oracle) {a : α}
    (hr : r (exec who c o w).1 = Except.ok a) (hQ : Q (Except.ok a) (exec who c o w).2) :
    ((ask c).bind fun x => orFail (r x) word).can (exec who) Q w := by
  refine ⟨o, ?_⟩
  show (orFail (r (exec who c o w).1) word).can _ _ _
  rw [hr]
  exact hQ

lemma openLuks2_can {Q : Except String Header → World → Prop} (hh : w.header device = some h)
    (hQ : Q (Except.ok h) w) : (openLuks2 device).can (exec who) Q w := by
  have hnode := World.isSome_node_of_header hh
  refine can_ask_orFail (c := Cmd.init device) (r := id) Oracle.quiet (a := ()) ?_ ?_
  · simp [exec, answer, FileSystem.pathExists, Oracle.unlessFault, Oracle.quiet, hnode]
  · refine can_ask_orFail_last (c := Cmd.load device) (r := id) Oracle.quiet (a := h) ?_ hQ
    show w.load Oracle.quiet device = Except.ok h
    simp [World.load, hh, Oracle.quiet]

lemma metadataJson_can {Q : Except String (Option Json) → World → Prop}
    (hh : w.header device = some h) (hQ : Q (Except.ok (some h.dump)) w) :
    (metadataJson device).can (exec who) Q w :=
  Prog.can_bind (Prog.can_attempt (openLuks2_can hh ⟨Oracle.quiet, hQ⟩))

lemma openLuks2_can_fail {Q : Except String Header → World → Prop}
    (hQ : ∀ e, Q (Except.error e) w) : (openLuks2 device).can (exec who) Q w := by
  have hfails : ∃ e, exec who (Cmd.init device) { Oracle.quiet with fault := some "" } w
      = (Except.error e, w) := by
    simp only [exec, answer]
    split_ifs
    · exact ⟨"", rfl⟩
    · exact ⟨Oracle.quiet.text, rfl⟩
  obtain ⟨e, he⟩ := hfails
  exact Prog.can_bind (Prog.can_call (c := Cmd.init device) _ he (hQ _))

lemma metadataJson_can_fail {Q : Except String (Option Json) → World → Prop}
    (hQ : Q (Except.ok none) w) : (metadataJson device).can (exec who) Q w :=
  Prog.can_bind (Prog.can_attempt (openLuks2_can_fail fun _ => hQ))

/-- The references of a type, where they parse. -/
lemma tokenRefs_can {read : Json → Except String (List α)} {refs : List α}
    {Q : Except String (List α) → World → Prop} (hh : w.header device = some h)
    (hparse : read h.dump = Except.ok refs) (hQ : Q (Except.ok refs) w) :
    (tokenRefs read device).can (exec who) Q w := by
  refine Prog.can_bind (metadataJson_can hh ?_)
  show (Prog.ofExcept (read h.dump)).can _ _ _
  rw [hparse]
  exact hQ

lemma derivePassphraseFromToken_can {tokenType pin : String} {Q : Except String Bytes → World → Prop}
    (htype : tokenType = tokenTypeFido2 ∨ tokenType = tokenTypeTpm2)
    (hh : w.header device = some h) (hparse : h.TokensParse tokenType) (secret : Bytes)
    (hQ : Q (Except.ok (asBytes (Base64.encode secret))) w) :
    (derivePassphraseFromToken device tokenType pin).can (exec who) Q w := by
  refine Prog.can_bind ?_
  rw [rawTokenSecret]
  rw [Header.TokensParse] at hparse
  split_ifs at hparse ⊢ with hfido htpm
  · obtain ⟨refs, hrefs⟩ := hparse
    refine Prog.can_bind (tokenRefs_can hh hrefs ?_)
    exact can_ask_orFail_last (c := Cmd.fido2UnlockFromTokens refs pin) (r := id)
      { Oracle.quiet with secret := secret } (a := secret) rfl hQ
  · obtain ⟨refs, hrefs⟩ := hparse
    refine Prog.can_bind (tokenRefs_can hh hrefs ?_)
    exact can_ask_orFail_last (c := Cmd.tpm2UnsealFromTokens refs pin) (r := id)
      { Oracle.quiet with secret := secret } (a := secret) rfl hQ
  · exact absurd htype (not_or.mpr ⟨hfido, htpm⟩)

/-- A passphrase that opens a keyslot finds one. -/
lemma keyAt_quiet {pw : Bytes} {i : ℕ} (hopens : h.opens pw i = true) :
    ∃ k, h.keyAt Oracle.quiet none pw = Except.ok (k, h.volumeKey) := by
  rcases h.keyAt_any Oracle.quiet pw with ⟨k, -, hkey⟩ | ⟨hall, -⟩
  · exact ⟨k, hkey⟩
  · rw [hall i] at hopens
    cases hopens

lemma tryCandidates_can {pw : Bytes} {k : ℕ} {lastErr : Option String}
    {Q : Except String (ℕ × VolumeKey) → World → Prop}
    (hkey : h.keyAt Oracle.quiet none pw = Except.ok (k, h.volumeKey))
    (hQ : Q (Except.ok (k, h.volumeKey)) w) :
    (tryCandidates h pw [none] lastErr).can (exec who) Q w := by
  refine Prog.can_bind (Prog.can_call (c := Cmd.volumeKeyGet h none pw)
    (r := Except.ok (k, h.volumeKey)) (t := w) Oracle.quiet ?_ hQ)
  exact Prod.ext hkey rfl

/-- The candidates are left out by an extraction that cannot read the metadata. -/
lemma extractTokenVolumeKey_can {tokenType : String} {pw : Bytes} {i : ℕ}
    {Q : Except String (ℕ × VolumeKey) → World → Prop} (hh : w.header device = some h)
    (hopens : h.opens pw i = true) (hQ : ∀ k, Q (Except.ok (k, h.volumeKey)) w) :
    (extractTokenVolumeKey device tokenType pw).can (exec who) Q w := by
  obtain ⟨k, hkey⟩ := keyAt_quiet hopens
  refine Prog.can_bind (openLuks2_can hh ?_)
  -- no metadata, no candidates: all keyslots are tried at once
  refine Prog.can_bind (p := ask (Cmd.dumpJson h)) ⟨{ Oracle.quiet with fault := some "" }, ?_⟩
  have hnull : tokenTypeKeyslots Json.null tokenType = [] := rfl
  show (tryCandidates h pw ((tokenTypeKeyslots Json.null tokenType).map (fun s => some (asU32 s))
    ++ [none]) none).can _ _ _
  rw [hnull]
  exact tryCandidates_can hkey (hQ k)

lemma coldVolumeKey_can {unlockMethod passphrase pin : String} {Q : Except String VolumeKey → World → Prop}
    (hvalid : validUnlockMethod unlockMethod = true) (hh : w.header device = some h)
    (hcold : h.ColdOpens unlockMethod passphrase) (hQ : Q (Except.ok h.volumeKey) w) :
    (coldVolumeKey device unlockMethod passphrase pin).can (exec who) Q w := by
  rw [coldVolumeKey]
  rw [Header.ColdOpens] at hcold
  by_cases hmethod : unlockMethod = "passphrase"
  · rw [if_pos hmethod] at hcold
    rw [if_neg (not_not.mpr hmethod)]
    obtain ⟨i, hi⟩ := hcold
    obtain ⟨k, hkey⟩ := keyAt_quiet hi
    refine Prog.can_bind (openLuks2_can hh ?_)
    exact can_ask_orFail (c := Cmd.volumeKeyGet h none (asBytes passphrase)) (r := id) Oracle.quiet
      (a := (k, h.volumeKey)) hkey hQ
  · rw [if_neg hmethod] at hcold
    rw [if_pos hmethod]
    obtain ⟨hparse, secret, i, hi⟩ := hcold
    have htype : unlockMethod = tokenTypeFido2 ∨ unlockMethod = tokenTypeTpm2 := by
      simpa [validUnlockMethod, hmethod] using hvalid
    refine Prog.can_bind (derivePassphraseFromToken_can htype hh hparse secret ?_)
    exact Prog.can_bind (Prog.can_mapErr (extractTokenVolumeKey_can hh hi fun k => hQ))

lemma exists_expired (now : ℕ) (entry : Option (VolumeKey × ℕ)) : ∃ d, live (now + d) entry = none := by
  cases entry with
  | none => exact ⟨0, rfl⟩
  | some e =>
      refine ⟨e.2 + volumeKeyCacheTtl, ?_⟩
      simp only [live]
      rw [if_neg (by omega)]

/-- **Every key that `get_volume_key` can yield, it can yield**, with the disk as it was. -/
lemma getVolumeKey_can {unlockMethod passphrase pin : String} {vk : VolumeKey}
    {Q : Except String VolumeKey → World → Prop} (hh : w.header device = some h)
    (hgives : w.Gives device h unlockMethod passphrase vk)
    (hQ : ∀ v, w.SameDisk v → Q (Except.ok vk) v) :
    (getVolumeKey device unlockMethod passphrase pin).can (exec who) Q w := by
  obtain ⟨hvalid, hcached | ⟨rfl, hcold⟩⟩ := hgives
  · rw [getVolumeKey, if_pos hvalid]
    refine Prog.can_bind (Prog.can_call (c := Cmd.cacheGet device) (r := some vk) (t := w)
      Oracle.quiet ?_ (hQ w (World.SameDisk.refl w)))
    show w.cacheGet device = _
    rw [World.cacheGet, hcached]
  · rw [getVolumeKey, if_pos hvalid]
    -- the cache is asked when whatever it holds has run out
    obtain ⟨d, hd⟩ := exists_expired w.now (w.cache (w.fs.cacheKey device))
    let o : Oracle := { Oracle.quiet with elapsed := d }
    have hmiss : World.cachedKey { w with now := w.now + d } device = none := hd
    refine Prog.can_bind (Prog.can_call (c := Cmd.cacheGet device) (r := none)
      (t := (World.cacheGet { w with now := w.now + d } device).2) o ?_ ?_)
    · show World.cacheGet { w with now := w.now + d } device = _
      rw [World.cacheGet, hmiss]
    · have hdisk : w.SameDisk (World.cacheGet { w with now := w.now + d } device).2 :=
        (show w.CachedFrom device (exec who (Cmd.cacheGet device) o w).2 from cacheGet_cachedFrom o w).disk
      refine Prog.can_bind (coldVolumeKey_can hvalid ((hdisk.header device).trans hh) hcold ?_)
      refine ⟨Oracle.quiet, hQ _ ?_⟩
      exact hdisk.trans ⟨rfl, rfl, rfl⟩

lemma choosePbkdf_can {minimalPbkdf : Bool} {Q : Except String Unit → World → Prop}
    (hQ : Q (Except.ok ()) w) : (choosePbkdf minimalPbkdf).can (exec who) Q w := by
  rw [choosePbkdf]
  split_ifs
  · exact can_ask_orFail_last (c := Cmd.setPbkdfType) (r := id) Oracle.quiet (a := ()) rfl hQ
  · exact hQ

/-- A header write that libcryptsetup does, where it changes the header. -/
lemma update_changes {f : Header → Except String (β × Header)} {b : β} {h' : Header}
    (hh : w.header device = some h) (hf : f h = Except.ok (b, h')) (hne : h' ≠ h) :
    (w.update device Oracle.quiet f).1 = Except.ok b
      ∧ (w.update device Oracle.quiet f).2.luks ≠ w.luks := by
  obtain ⟨i, hi⟩ := Option.isSome_iff_exists.mp (World.isSome_node_of_header hh)
  have hluks : w.luks i = some h := by
    rw [World.header, hi] at hh
    exact hh
  simp only [World.update, Oracle.quiet, hi, hluks, hf]
  refine ⟨trivial, fun hsame => hne ?_⟩
  have hat := congrFun hsame i
  rw [Function.update_self, hluks] at hat
  exact Option.some.inj hat

/-- **A keyslot can be added** where the key is the header's and an index is free. -/
lemma addKeyslot_can {pw : Bytes} {minimalPbkdf : Bool} {Q : Except String ℕ → World → Prop}
    (hh : w.header device = some h) (hfree : ∃ i < keyslotsMax, h.keyslots i = none)
    (hQ : ∀ i v, v.luks ≠ w.luks → Q (Except.ok i) v) :
    (addKeyslotByVolumeKey device h.volumeKey pw minimalPbkdf).can (exec who) Q w := by
  cases hslot : h.addKeyslot none (Header.newKeyslot who pw) with
  | none =>
      -- only a full table turns a keyslot down
      obtain ⟨i, hi, hnone⟩ := hfree
      rw [Header.addKeyslot] at hslot
      split at hslot
      · rename_i hindex
        have hfull := freeIndex_none hindex i hi
        rw [hnone] at hfull
        cases hfull
      · cases hslot
  | some added =>
      obtain ⟨i, h'⟩ := added
      obtain ⟨hindex, hslots, -⟩ := Header.addKeyslot_spec hslot
      have hne : h' ≠ h := by
        rintro rfl
        have hat := congrFun hslots i
        rw [Function.update_self, (freeIndex_some hindex).2] at hat
        cases hat
      have hadd : h.addByKey who Oracle.quiet (some h.volumeKey) pw = Except.ok (i, h') := by
        simp [Header.addByKey, Oracle.quiet, hslot]
      obtain ⟨hok, hchanged⟩ := update_changes (f := fun g => g.addByKey who Oracle.quiet
        (some h.volumeKey) pw) hh hadd hne
      refine Prog.can_bind (openLuks2_can hh (Prog.can_bind (choosePbkdf_can ?_)))
      exact can_ask_orFail_last (c := Cmd.addByKey device (some h.volumeKey) pw) (r := id)
        Oracle.quiet hok (hQ i _ hchanged)

/-- What an authorised request adds stays, if what comes after it leaves the header alone. -/
lemma addAuthorised_can {unlockMethod passphrase pin : String} {secret : Bytes} {minimalPbkdf : Bool}
    {f : ℕ → Op β} (hadd : w.CanAdd device unlockMethod passphrase)
    (hf : ∀ i v, v.luks ≠ w.luks → (f i).can (exec who) (fun _ u => u.luks ≠ w.luks) v) :
    ((getVolumeKey device unlockMethod passphrase pin).bind fun vk =>
      (addKeyslotByVolumeKey device vk secret minimalPbkdf).bind f).can (exec who)
        (fun _ u => u.luks ≠ w.luks) w := by
  obtain ⟨h, hh, hgives, hfree⟩ := hadd
  refine Prog.can_bind (getVolumeKey_can hh hgives fun v hsame => ?_)
  refine Prog.can_bind (addKeyslot_can ((hsame.header device).trans hh) hfree fun i u hu => ?_)
  exact hf i u (by rw [← hsame.luks]; exact hu)

/-- The token of the new keyslot need not be written. -/
lemma storeToken_can {prepared : Prepared} {i : ℕ} {luks : ℕ → Option Header} (hw : w.luks ≠ luks) :
    (storeToken device prepared i).can (exec who) (fun _ u => u.luks ≠ luks) w :=
  Prog.can_bind (Prog.can_bind (openLuks2_can_fail fun _ => hw))

/-- Where a keyslot can be added, the enrollment can go all the way. -/
lemma enrollToken_can {unlockMethod pin passphrase : String} {prepare : Op Prepared}
    (hadd : w.CanAdd device unlockMethod passphrase)
    (hprepare : ∀ Q : Except String Prepared → World → Prop,
      (∀ prepared, Q (Except.ok prepared) w) → prepare.can (exec who) Q w) :
    (enrollToken device unlockMethod pin passphrase prepare).can (exec who)
      (fun _ u => u.luks ≠ w.luks) w :=
  Prog.can_bind (hprepare _ fun _ => addAuthorised_can hadd fun _ _ hv => storeToken_can hv)

/-- The rest of a wipe that finds its keyslot: the token is left alone, the keyslot goes. -/
lemma wipeRest_can {slot : ℤ} (hh : w.header device = some h)
    (hslot : (h.keyslots (asU32 slot)).isSome) :
    (wipeRest device slot).can (exec who) (fun _ u => u.luks ≠ w.luks) w := by
  obtain ⟨h', hdestroy⟩ : ∃ h', h.destroyKeyslot (asU32 slot) = some h' :=
    ⟨_, if_pos hslot⟩
  obtain ⟨-, hslots, -⟩ := Header.destroyKeyslot_spec hdestroy
  have hne : h' ≠ h := by
    rintro rfl
    have hat := congrFun hslots (asU32 slot)
    rw [Function.update_self] at hat
    rw [hat] at hslot
    cases hslot
  have hok : h.keyslotDestroy Oracle.quiet (asU32 slot) = Except.ok ((), h') := by
    rw [Header.keyslotDestroy, hdestroy]
  obtain ⟨hdone, hchanged⟩ := update_changes (f := fun g => g.keyslotDestroy Oracle.quiet (asU32 slot))
    hh hok hne
  -- without the metadata no token is found
  refine Prog.can_bind (Prog.can_bind (metadataJson_can_fail ?_))
  refine Prog.can_bind (p := destroyKeyslot device slot) (Prog.can_bind (openLuks2_can hh ?_))
  exact can_ask_orFail_last (c := Cmd.keyslotDestroy device (asU32 slot)) (r := id) Oracle.quiet hdone
    hchanged

/-- A part that can end so ends as an answer. -/
lemma can_triple {body : Op Triple} {P : World → Prop}
    (hbody : body.can (exec who) (fun _ v => P v) w) :
    ((runOp body).bind fun t => Prog.ret (Answer.triple t)).can (exec who) (fun _ v => P v) w := by
  refine Prog.can_bind (Prog.can_bind (Prog.can_attempt (Prog.can_mono (fun x v hv => ?_) hbody)))
  cases x <;> exact hv

end Possible

/-- **A method that can write to the header does**, if the calls go its way. -/
theorem VolumeOp.canWrite_changes {who : Option ℕ} {device : String} {w : World} (m : VolumeOp)
    (hcan : m.CanWrite w device) :
    ∃ os, ((m.body device).run (exec who) os w).2.luks ≠ w.luks := by
  suffices hpossible : (m.body device).can (exec who) (fun _ v => v.luks ≠ w.luks) w from
    Prog.can_sound hpossible
  cases m with
  | enrollFido2 passphrase pin fido2Device unlockMethod unlockPin =>
      -- with the metadata out of reach no authenticator counts as enrolled
      refine can_triple (Prog.can_bind (Prog.can_bind (Prog.can_bind (Prog.can_attempt
        (Prog.can_bind (metadataJson_can_fail ?_))))))
      refine enrollToken_can hcan fun Q hQ => ?_
      exact can_ask_orFail (c := Cmd.fido2Enroll fido2Device (optionalPin pin)) (r := id)
        Oracle.quiet rfl (hQ _)
  | enrollTpm2 passphrase pin pcrs unlockMethod unlockPin =>
      obtain ⟨hadd, list, hlist⟩ := hcan
      refine can_triple (enrollToken_can hadd fun Q hQ => ?_)
      refine can_ask_orFail (c := Cmd.getrandom 32) (r := id) Oracle.quiet rfl ?_
      refine can_ask_orFail (c := Cmd.tpm2Seal (Oracle.quiet.random 32) pcrs pin) (r := id)
        Oracle.quiet rfl ?_
      show Prog.can _ _ ((Prog.ofExcept (pcrList pcrs)).bind _) _
      rw [hlist]
      exact hQ _
  | enrollRecoveryKey passphrase unlockMethod unlockPin =>
      exact can_triple (enrollToken_can hcan fun Q hQ => ⟨Oracle.quiet, hQ _⟩)
  | enrollPassphrase existing new unlockMethod unlockPin =>
      exact can_triple (addAuthorised_can hcan fun _ _ hv => hv)
  | wipeSlot passphrase unlockMethod pin slot =>
      obtain ⟨h, vk, hh, hgives, hslot⟩ := hcan
      refine can_triple (Prog.can_bind (getVolumeKey_can hh hgives fun v hsame => ?_))
      -- nor does the guard see a last keyslot
      refine Prog.can_bind (Prog.can_bind (metadataJson_can_fail ?_))
      rw [← hsame.luks]
      exact wipeRest_can ((hsame.header device).trans hh) hslot
  | _ => exact hcan.elim

/-! ## On a mount

What is mounted read-only is not written to.
-/

/-- The requests that can write are slot requests. -/
lemma VolumeOp.touches_of_canWrite {device : String} {w : World} {m : VolumeOp}
    (hcan : m.CanWrite w device) : (m.body device).AllCalls (Cmd.TouchesOn device) := by
  cases hr : m.slotRequest device with
  | none => cases m <;> first | exact hcan.elim | cases hr
  | some r =>
      rw [VolumeOp.body_of_slotRequest hr, ← VolumeOp.slotRequest_device hr]
      exact AllCalls.bind r.body_touches fun _ => trivial

section Mounted

variable {who : Option ℕ} {readOnly : String → Bool} {device : String} {w : World}

/-- Nothing that a slot request issues changes a header whose device is mounted read-only. -/
lemma mountedExec_luks {c : Cmd} (hc : c.TouchesOn device) (hro : readOnly device = true) (o : Oracle)
    (w : World) : (mountedExec who readOnly c o w).2.luks = w.luks := by
  have hrefused : ∀ c : Cmd, c.headerWrite = some device →
      mountedExec who readOnly c o w = exec who c (refuseWrite o) w := by
    intro c hwrite
    have hro' : refusedBy readOnly c = true := by
      rw [refusedBy, hwrite]
      exact hro
    simp only [mountedExec, refusing, if_pos hro']
  rcases hc with hread | ⟨vk, pw, rfl⟩ | ⟨input, rfl⟩ | ⟨slot, rfl⟩
  · rw [mountedExec, refusing, refusedBy_reads hread]
    exact (exec_readsOn hread _ w).luks
  all_goals
    rw [hrefused _ rfl]
    rfl

/-- **A read-only mount keeps the header.** -/
theorem VolumeOp.mounted_keeps {m : VolumeOp} (hcan : m.CanWrite w device)
    (hro : readOnly device = true) (os : ℕ → Oracle) :
    ((m.body device).run (mountedExec who readOnly) os w).2.luks = w.luks :=
  Prog.wp_sound (Prog.wp_of_allCalls (A := fun _ => True)
    (T := fun v v' : World => v'.luks = v.luks) (fun _ => rfl) (fun _ _ _ h h' => h'.trans h)
    (fun _ o v hc _ => mountedExec_luks hc hro o v) (VolumeOp.touches_of_canWrite hcan) w) os
    fun _ => trivial

/-- On a mount that takes writes, whatever can write runs as anywhere. -/
lemma VolumeOp.run_of_writable {m : VolumeOp} (hcan : m.CanWrite w device)
    (hrw : readOnly device = false) (os : ℕ → Oracle) :
    (m.body device).run (mountedExec who readOnly) os w = (m.body device).run (exec who) os w := by
  refine Prog.run_congr (fun c hc => ?_) (VolumeOp.touches_of_canWrite hcan) os w
  have hfree : refusedBy readOnly c = false := by
    rcases hc with hread | ⟨vk, pw, rfl⟩ | ⟨input, rfl⟩ | ⟨slot, rfl⟩
    · exact refusedBy_reads hread
    all_goals exact hrw
  funext o v
  simp [mountedExec, refusing, hfree]

end Mounted

end LuksEnroll
