import LuksEnroll.Outcomes

/-!
# Where volume keys come from

A volume key reaches an operation on one of two roads: from the cache, or out of a keyslot of the
header it is about to work on.  `getVolumeKey_key` says so for `get_volume_key`, and what the
cache holds afterwards; the two verify functions fill the cache by the second road only.

Both roads are open to a request at once, and the cache is asked first.  What stays the same while a
request looks for its key is collected in `CachedFrom`: the disk is as it was, time has passed, and the
cache has lost entries at most, or gained the key of this very header.

The specifications are those of `Outcomes` for the functions that read: they name the header and the
keyslot that the key came from, so that a module about the cache and a module about keyslots can both
start here.
-/

namespace LuksEnroll

open Library
open Prog (AllCalls)

/-! ## Time passing

Reading and looking take time and may drop entries of the cache whose time is over.  Whether
something unlocks does not depend on that.
-/

/-- What is unexpired later is unexpired now. -/
lemma live_of_later {now now' : ℕ} (hnow : now ≤ now') {entry : Option (VolumeKey × ℕ)}
    {vk : VolumeKey} (hlive : live now' entry = some vk) : live now entry = some vk := by
  cases entry with
  | none => simp [live] at hlive
  | some e =>
      obtain ⟨vk', t⟩ := e
      simp only [live] at hlive ⊢
      split_ifs at hlive with hlt
      rw [if_pos (by omega)]
      exact hlive

namespace World

/-- Time passed, and nothing else. -/
def Later (w w' : World) : Prop := ∃ d, w' = { w with now := w.now + d }

lemma Later.refl (w : World) : Later w w := ⟨0, rfl⟩

lemma Later.trans {u v w : World} (huv : Later u v) (hvw : Later v w) : Later u w := by
  obtain ⟨d, rfl⟩ := huv
  obtain ⟨d', rfl⟩ := hvw
  exact ⟨d + d', by simp [Nat.add_assoc]⟩

lemma Later.header {w w' : World} (h : Later w w') (device : String) :
    w'.header device = w.header device := by
  obtain ⟨d, rfl⟩ := h
  rfl

/-- `vk` is the volume key of the header at `device`, and there is a keyslot to get it from. -/
def Unlocks (w : World) (device : String) (vk : VolumeKey) : Prop :=
  ∃ h, w.header device = some h ∧ h.volumeKey = vk ∧ ∃ i, (h.keyslots i).isSome

lemma Later.unlocks {w w' : World} (h : Later w w') {device : String} {vk : VolumeKey} :
    w'.Unlocks device vk ↔ w.Unlocks device vk := by
  simp only [Unlocks, h.header]

/-- What unlocking does: a key cached afterwards was cached before, or it is the volume key of the
header at `device`, cached under the device's own name. -/
structure CachedFrom (device : String) (w w' : World) : Prop where
  disk : w.SameDisk w'
  now_le : w.now ≤ w'.now
  entries : ∀ p vk, live w'.now (w'.cache p) = some vk → live w.now (w.cache p) = some vk
    ∨ p = w.fs.cacheKey device ∧ w.Unlocks device vk

/-- When only time has passed, nothing has been cached. -/
lemma Later.cachedFrom {w w' : World} (h : Later w w') (device : String) :
    w.CachedFrom device w' := by
  obtain ⟨d, rfl⟩ := h
  exact ⟨⟨rfl, rfl, rfl⟩, Nat.le_add_right _ _, fun p vk hlive =>
    Or.inl (live_of_later (Nat.le_add_right _ _) hlive)⟩

/-- What was cached in two goes was cached from the same header. -/
lemma CachedFrom.trans {device : String} {u v w : World} (huv : u.CachedFrom device v)
    (hvw : v.CachedFrom device w) : u.CachedFrom device w where
  disk := huv.disk.trans hvw.disk
  now_le := huv.now_le.trans hvw.now_le
  entries := fun p vk hlive => by
    rcases hvw.entries p vk hlive with hv | ⟨hp, hunlocks⟩
    · exact huv.entries p vk hv
    · refine Or.inr ⟨by rw [hp, huv.disk.fs], ?_⟩
      simpa only [Unlocks, huv.disk.header] using hunlocks

lemma CachedFrom.unlocks {device d : String} {w w' : World} (h : w.CachedFrom d w')
    {vk : VolumeKey} : w'.Unlocks device vk ↔ w.Unlocks device vk := by
  simp only [Unlocks, h.disk.header]

end World

variable {who : Option ℕ} {A : Oracle → Prop} {device : String} {α : Type}

lemma exec_looksOn {c : Cmd} (hc : c.LooksOn device) (o : Oracle) (w : World) :
    w.Later (exec who c o w).2 := by
  cases c <;> first | exact ⟨o.elapsed, rfl⟩ | exact hc.elim

lemma wp_looksOn {p : Op α} (hp : p.AllCalls (Cmd.LooksOn device)) (w : World) :
    p.wp (exec who) A (fun _ w' => w.Later w') w :=
  Prog.wp_of_allCalls (T := World.Later) World.Later.refl (fun _ _ _ => World.Later.trans)
    (fun _ o s hc _ => exec_looksOn hc o s) hp w

/-- Asking the cache may drop an expired entry, nothing else. -/
lemma cacheGet_cachedFrom (o : Oracle) (w : World) :
    w.CachedFrom device (exec who (Cmd.cacheGet device) o w).2 := by
  have hlater : w.Later { w with now := w.now + o.elapsed } := ⟨o.elapsed, rfl⟩
  refine (hlater.cachedFrom device).trans ?_
  show World.CachedFrom _ _ (World.cacheGet _ device).2
  rw [World.cacheGet]
  split
  · exact (World.Later.refl _).cachedFrom device
  · refine ⟨⟨rfl, rfl, rfl⟩, le_rfl, fun p vk hlive => Or.inl ?_⟩
    by_cases hp : p = w.fs.cacheKey device
    · subst hp
      simp [live] at hlive
    · simpa [Function.update_of_ne hp] using hlive

/-- An entry that is handed out was unexpired. -/
lemma cacheGet_some {o : Oracle} {w : World} {vk : VolumeKey}
    (hget : (exec who (Cmd.cacheGet device) o w).1 = some vk) : w.cachedKey device = some vk := by
  change (World.cacheGet _ device).1 = some vk at hget
  rw [World.cacheGet] at hget
  split at hget
  · rename_i vk' hkey
    obtain rfl := Option.some.inj hget
    exact live_of_later (Nat.le_add_right _ _) hkey
  · cases hget

/-- Caching the key of the header is caching from it. -/
lemma cacheInsert_cachedFrom {w : World} {vk : VolumeKey} (hvk : w.Unlocks device vk) (o : Oracle) :
    w.CachedFrom device (exec who (Cmd.cacheInsert device vk) o w).2 := by
  have hlater : w.Later { w with now := w.now + o.elapsed } := ⟨o.elapsed, rfl⟩
  refine (hlater.cachedFrom device).trans ⟨⟨rfl, rfl, rfl⟩, le_rfl, fun p vk' hlive => ?_⟩
  by_cases hp : p = w.fs.cacheKey device
  · subst hp
    right
    have hkey : vk = vk' := by
      simpa [exec, answer, World.cacheInsert, live, volumeKeyCacheTtl] using hlive
    exact ⟨rfl, hkey ▸ hvk⟩
  · left
    simpa [exec, answer, World.cacheInsert, Function.update_of_ne hp] using hlive

/-! ## Out of a keyslot

The key comes out of a keyslot that the passphrase opens, whichever candidate it was.
-/

/-- A passphrase opens only a keyslot that exists. -/
lemma opens_isSome {h : Header} {pw : Bytes} {i : ℕ} (ho : h.opens pw i = true) :
    (h.keyslots i).isSome := by
  rw [Header.opens] at ho
  split at ho
  · rename_i ks hks
    simp [hks]
  · cases ho

/-- libcryptsetup gives up the volume key only for a secret that opens a keyslot. -/
lemma keyAt_ok {h : Header} {o : Oracle} {slot : Option ℕ} {pw : Bytes} {r : ℕ × VolumeKey}
    (hr : h.keyAt o slot pw = Except.ok r) :
    r.2 = h.volumeKey ∧ ∃ i, (h.keyslots i).isSome := by
  cases slot with
  | some i =>
      simp only [Header.keyAt] at hr
      split_ifs at hr with ho
      obtain rfl := Except.ok.inj hr
      exact ⟨rfl, i, opens_isSome ho⟩
  | none =>
      simp only [Header.keyAt] at hr
      split at hr
      · rename_i i hi
        obtain rfl := Except.ok.inj hr
        refine ⟨rfl, i, @opens_isSome h pw i ?_⟩
        rcases Option.or_eq_some_iff.mp hi with hpick | ⟨-, hfind⟩
        · exact (Option.filter_eq_some_iff.mp hpick).2
        · exact List.find?_some hfind
      · cases hr

/-- The key that libcryptsetup returns is that of the loaded header. -/
lemma volumeKeyGet_ok {loaded : Header} {slot : Option ℕ} {pw : Bytes} {o : Oracle} {w : World}
    {r : ℕ × VolumeKey} (hr : (exec who (Cmd.volumeKeyGet loaded slot pw) o w).1 = Except.ok r) :
    r.2 = loaded.volumeKey ∧ ∃ i, (loaded.keyslots i).isSome := by
  cases hf : o.fault with
  | some e => simp [exec, answer, Oracle.unlessFault, hf, Except.bind] at hr
  | none =>
      refine @keyAt_ok loaded o slot pw r ?_
      simpa [exec, answer, Oracle.unlessFault, hf, Except.bind] using hr

/-- Trying the candidates in turn gives the key of the header, or nothing. -/
lemma tryCandidates_key (loaded : Header) (pw : Bytes) (slots : List (Option ℕ))
    (lastErr : Option String) (w : World) :
    (tryCandidates loaded pw slots lastErr).wp (exec who) A (fun x _ => ∀ r, x = Except.ok r →
      r.2 = loaded.volumeKey ∧ ∃ i, (loaded.keyslots i).isSome) w := by
  induction slots generalizing lastErr w with
  | nil =>
      intro r hr
      cases hr
  | cons slot rest ih =>
      intro o _
      cases hx : (exec who (Cmd.volumeKeyGet loaded slot pw) o w).1 with
      | ok found =>
          intro r hr
          obtain rfl := Except.ok.inj hr
          exact volumeKeyGet_ok hx
      | error e => exact ih (some e) _

/-- A key obtained from a session on `device`. -/
def KeyFrom (device : String) (w : World) (x : Except String (ℕ × VolumeKey)) (w' : World) : Prop :=
  w.Later w' ∧ ∀ r, x = Except.ok r → w.Unlocks device r.2

/-- Extracting with a token's passphrase gives the key of the header the device has. -/
lemma extractTokenVolumeKey_key (tokenType : String) (pw : Bytes) (w : World) :
    (extractTokenVolumeKey device tokenType pw).wp (exec who) A (KeyFrom device w) w := by
  refine Prog.wp_and (wp_looksOn (extractTokenVolumeKey_looks device tokenType pw) w) ?_
  refine Prog.wp_bind (Prog.wp_mono (fun x v hx => ?_) (openLuks2_spec w))
  cases x with
  | error e => exact fun r hr => by cases hr
  | ok loaded =>
      intro o _
      refine Prog.wp_mono (fun y _ hy r hr => ?_) (tryCandidates_key loaded pw _ none _)
      obtain ⟨hkey, hslot⟩ := hy r hr
      exact ⟨loaded, hx.2, hkey.symm, hslot⟩

/-- A passphrase against all keyslots, and what is done with the key. -/
lemma wp_passphraseKey {β : Type} {passphrase : String} {word : String → String} {w : World}
    {k : ℕ × VolumeKey → Op β} {Q : Except String β → World → Prop}
    (hok : ∀ r v, w.Later v → w.Unlocks device r.2 → (k r).wp (exec who) A Q v)
    (herr : ∀ e v, w.Later v → Q (Except.error e) v) :
    ((openLuks2 device).bind fun loaded =>
      (ask (Cmd.volumeKeyGet loaded none (asBytes passphrase))).bind fun x =>
        (orFail x word).bind k).wp (exec who) A Q w := by
  have hopen := Prog.wp_and (wp_looksOn (openLuks2_looks device) w)
    (@openLuks2_spec who A device w)
  refine Prog.wp_bind (Prog.wp_mono (fun x v hx => ?_) hopen)
  obtain ⟨hlater, -, hx⟩ := hx
  cases x with
  | error e => exact herr e v hlater
  | ok loaded =>
      have hnext : ∀ o, w.Later
          (exec who (Cmd.volumeKeyGet loaded none (asBytes passphrase)) o v).2 := fun o =>
        hlater.trans ⟨o.elapsed, rfl⟩
      refine wp_ask_orFail (r := id) (fun o r _ hr => ?_) (fun o e _ _ => herr _ _ (hnext o))
      obtain ⟨hkey, hslot⟩ := volumeKeyGet_ok hr
      exact hok r _ (hnext o) ⟨loaded, hx, hkey.symm, hslot⟩

/-- A key from a token's keyslots, and what is done with it. -/
lemma wp_tokenKey {β : Type} {tokenType pin : String} {f : String → String} {w : World}
    {k : ℕ × VolumeKey → Op β} {Q : Except String β → World → Prop}
    (hok : ∀ r v, w.Later v → w.Unlocks device r.2 → (k r).wp (exec who) A Q v)
    (herr : ∀ e v, w.Later v → Q (Except.error e) v) :
    ((derivePassphraseFromToken device tokenType pin).bind fun pw =>
      ((extractTokenVolumeKey device tokenType pw).mapErr f).bind k).wp (exec who) A Q w := by
  refine Prog.wp_bind (Prog.wp_mono (fun x v hlater => ?_)
    (wp_looksOn (derivePassphraseFromToken_looks device tokenType pin) w))
  cases x with
  | error e => exact herr e v hlater
  | ok pw =>
      refine Prog.wp_bind (Prog.wp_mapErr (Prog.wp_mono (fun y v' hy => ?_)
        (extractTokenVolumeKey_key tokenType pw v)))
      obtain ⟨hlater', hkey⟩ := hy
      cases y with
      | error e => exact herr _ v' (hlater.trans hlater')
      | ok r => exact hok r v' (hlater.trans hlater') (hlater.unlocks.mp (hkey r rfl))

/-- Without the cache the key comes out of the header. -/
lemma coldVolumeKey_key (unlockMethod passphrase unlockPin : String) (w : World) :
    (coldVolumeKey device unlockMethod passphrase unlockPin).wp (exec who) A
      (fun x w' => w.Later w' ∧ ∀ vk, x = Except.ok vk → w.Unlocks device vk) w := by
  have hok : ∀ (r : ℕ × VolumeKey) (v : World), w.Later v → w.Unlocks device r.2 →
      (Prog.ret r.2 : Op VolumeKey).wp (exec who) A
        (fun x w' => w.Later w' ∧ ∀ vk, x = Except.ok vk → w.Unlocks device vk) v := by
    intro r v hlater hkey
    refine ⟨hlater, fun vk hvk => ?_⟩
    obtain rfl := Except.ok.inj hvk
    exact hkey
  have herr : ∀ (e : String) (v : World), w.Later v →
      w.Later v ∧ ∀ vk, (Except.error e : Except String VolumeKey) = Except.ok vk →
        w.Unlocks device vk := by
    intro e v hlater
    exact ⟨hlater, fun vk hvk => by cases hvk⟩
  rw [coldVolumeKey]
  split_ifs
  · exact wp_tokenKey hok herr
  · exact wp_passphraseKey hok herr

/-! ## From the cache

The cache gives the key that it has, and the rest of an unlock is not looked at.
-/

/-- **Where the key of `get_volume_key` comes from**, and what it leaves in the cache. -/
lemma getVolumeKey_key (unlockMethod passphrase unlockPin : String) (w : World) :
    (getVolumeKey device unlockMethod passphrase unlockPin).wp (exec who) A
      (fun x w' => w.CachedFrom device w' ∧ ∀ vk, x = Except.ok vk →
        validUnlockMethod unlockMethod = true
          ∧ (w.cachedKey device = some vk ∨ w.Unlocks device vk)) w := by
  rw [getVolumeKey]
  split_ifs with hvalid
  · intro o _
    have hget := @cacheGet_cachedFrom who device o w
    cases hx : (exec who (Cmd.cacheGet device) o w).1 with
    | some vk =>
        refine ⟨hget, fun vk' hvk' => ⟨hvalid, Or.inl ?_⟩⟩
        obtain rfl := Except.ok.inj hvk'
        exact cacheGet_some hx
    | none =>
        generalize (exec who (Cmd.cacheGet device) o w).2 = v at hget
        show Prog.wp _ _ _ ((coldVolumeKey device unlockMethod passphrase unlockPin).bind _) _
        refine Prog.wp_bind (Prog.wp_mono (fun x v' hcold => ?_)
          (coldVolumeKey_key unlockMethod passphrase unlockPin v))
        obtain ⟨hlater, hkey⟩ := hcold
        have hfrom := hget.trans (hlater.cachedFrom device)
        cases x with
        | error e => exact ⟨hfrom, fun vk hvk => by cases hvk⟩
        | ok vk =>
            intro o' _
            have hunlocks : v'.Unlocks device vk := hlater.unlocks.mpr (hkey vk rfl)
            refine ⟨hfrom.trans (cacheInsert_cachedFrom hunlocks o'), fun vk' hvk' => ?_⟩
            obtain rfl := Except.ok.inj hvk'
            exact ⟨hvalid, Or.inr (hfrom.unlocks.mp hunlocks)⟩
  · exact ⟨(World.Later.refl w).cachedFrom device, fun vk hvk => by cases hvk⟩

/-- Verifying a passphrase caches the key of the header, if anything. -/
lemma verifyPassphrase_key (passphrase : String) (w : World) :
    (verifyPassphrase device passphrase).wp (exec who) A (fun _ w' => w.CachedFrom device w') w := by
  refine wp_passphraseKey (fun r v hlater hkey o _ => ?_) fun e v hlater => hlater.cachedFrom device
  exact (hlater.cachedFrom device).trans (cacheInsert_cachedFrom (hlater.unlocks.mpr hkey) o)

lemma verifyToken_key (tokenType pin : String) (w : World) :
    (verifyToken device tokenType pin).wp (exec who) A (fun _ w' => w.CachedFrom device w') w := by
  rw [verifyToken]
  split_ifs
  · exact (World.Later.refl w).cachedFrom device
  · refine wp_tokenKey (fun r v hlater hkey o _ => ?_) fun e v hlater => hlater.cachedFrom device
    exact (hlater.cachedFrom device).trans (cacheInsert_cachedFrom (hlater.unlocks.mpr hkey) o)

end LuksEnroll
