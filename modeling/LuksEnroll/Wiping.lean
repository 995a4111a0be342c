import LuksEnroll.Enrollment

/-!
# What a wipe takes with it

`op_wipe_slot` looks twice before it writes: its guard counts the keyslots, and
`find_token_for_keyslot` picks the token to remove.  Both looks have blind spots.

* The lookup returns *one* token, the first that lists the keyslot, and the token is removed as a
  whole.  A keyslot and a token need not belong to each other alone: `wipe_clean_iff` says when a
  wipe leaves all other keyslots with their tokens and no token without a keyslot.
* The guard counts *entries*, whether or not the volume key can be had from them, and sees none
  when its read fails.  `wipe_keeps_holder_iff` says when a wipe cannot take the last keyslot that
  holds the volume key.

Which of several reads failed decides between outcomes, so the statements are about a run as a
function of its inputs, cut where one stage hands over to the next.

`wipeLook` is the part up to the guard, `wipeRest` what comes after it.  Each is run on its own inputs,
with the metadata that it read (`metadataRead`) as the only thing handed over.
-/

namespace LuksEnroll

open Library

variable {who : Option ℕ} {A : Oracle → Prop} {device : String} {w : World}

/-! ## Stages of a wipe

The whole is cut at what one stage hands to the next, which is the metadata that it read.
-/

/-- The metadata that a read obtains once `p` has run. -/
def readAfter {α : Type} (who : Option ℕ) (device : String) (p : Op α) (os : ℕ → Oracle)
    (w : World) : Option Json :=
  metadataRead who device (Prog.after (p.steps (exec who) os w) os) (p.run (exec who) os w).2

/-- A wipe up to the last-keyslot guard. -/
def wipeLook (device passphrase unlockMethod pin : String) : Op (OrderedMap ℤ String) :=
  (getVolumeKey device unlockMethod passphrase pin).bind fun _ => listKeyslots device

/-- What the last-keyslot guard reads. -/
def guardRead (who : Option ℕ) (device passphrase unlockMethod pin : String) (os : ℕ → Oracle)
    (w : World) : Option Json :=
  readAfter who device (getVolumeKey device unlockMethod passphrase pin) os w

/-- What the token lookup reads, once the guard has let the wipe pass. -/
def lookupRead (who : Option ℕ) (device passphrase unlockMethod pin : String) (os : ℕ → Oracle)
    (w : World) : Option Json :=
  readAfter who device (wipeLook device passphrase unlockMethod pin) os w

/-- A read that cannot open the device obtains nothing. -/
lemma metadataRead_fault {os : ℕ → Oracle} (hos : (os 0).fault.isSome) (w : World) :
    metadataRead who device os w = none := by
  obtain ⟨e, he⟩ := Option.isSome_iff_exists.mp hos
  obtain ⟨e', hinit⟩ : ∃ e', (exec who (Cmd.init device) (os 0) w).1 = Except.error e' := by
    simp only [exec, answer, Oracle.unlessFault, he]
    split_ifs
    · exact ⟨e, rfl⟩
    · exact ⟨(os 0).text, rfl⟩
  have hopen : (openLuks2 device).run (exec who) os w
      = (Except.error "Failed to open device", (exec who (Cmd.init device) (os 0) w).2) := by
    show ((orFail (exec who (Cmd.init device) (os 0) w).1 _).bind _).run _ _ _ = _
    rw [hinit]
    rfl
  have hattempt := Prog.run_attempt (δ := String) (exec who) (openLuks2 device) os w
  rw [hopen] at hattempt
  rw [metadataRead, metadataJson, Prog.bind_def, Prog.run_bind_ok hattempt]
  rfl

/-- The tail of a wipe, in a run that gets there. -/
def wipeTail (who : Option ℕ) (device passphrase unlockMethod pin : String) (slot : I32)
    (os : ℕ → Oracle) (w : World) : Except String Triple × World :=
  let look := wipeLook device passphrase unlockMethod pin
  (wipeRest device slot.val).run (exec who) (Prog.after (look.steps (exec who) os w) os)
    (look.run (exec who) os w).2

/-- The look of a wipe, when a key came back: the keyslots that were read. -/
lemma wipeLook_run {passphrase unlockMethod pin : String} {os : ℕ → Oracle} {vk : VolumeKey}
    (hvk : ((getVolumeKey device unlockMethod passphrase pin).run (exec who) os w).1
      = Except.ok vk) :
    ∃ v, (wipeLook device passphrase unlockMethod pin).run (exec who) os w
        = (Except.ok (keyslotsIn (guardRead who device passphrase unlockMethod pin os w)), v) := by
  obtain ⟨v, hv, -⟩ := metadataJson_run who device
    (Prog.after ((getVolumeKey device unlockMethod passphrase pin).steps (exec who) os w) os)
    ((getVolumeKey device unlockMethod passphrase pin).run (exec who) os w).2
  refine ⟨v, ?_⟩
  rw [wipeLook, Prog.run_bind_ok (Prod.ext hvk rfl), listKeyslots, Prog.bind_def,
    Prog.run_bind_ok hv]
  rfl

lemma sameDisk_of_reads {α : Type} (who : Option ℕ) {p : Op α} (hp : p.AllCalls (Cmd.ReadsOn device))
    (os : ℕ → Oracle) (w : World) : w.SameDisk (p.run (exec who) os w).2 :=
  Prog.wp_sound (A := fun _ => True) (wp_readsOn hp w) os fun _ => trivial

lemma wipeLook_reads (device passphrase unlockMethod pin : String) :
    (wipeLook device passphrase unlockMethod pin).AllCalls (Cmd.ReadsOn device) :=
  Prog.AllCalls.bind (getVolumeKey_reads _ _ _ _) fun _ => reads_of_looks (listKeyslots_looks _)

/-- A wipe is its look, its guard, and the rest. -/
lemma opWipeSlot_eq (passphrase unlockMethod pin : String) (slot : I32) :
    opWipeSlot device passphrase unlockMethod pin slot
      = runOp ((wipeLook device passphrase unlockMethod pin).bind fun slots =>
        if slots.entries.length ≤ 1 ∧ slot.val ∈ slots.keys then Prog.ret lastKeyslot
        else wipeRest device slot.val) := by
  rw [wipeLook, Prog.bind_assoc]
  rfl

lemma opWipeSlot_run_tail {passphrase unlockMethod pin : String} {slot : I32} {os : ℕ → Oracle}
    {vk : VolumeKey} (hvk : ((getVolumeKey device unlockMethod passphrase pin).run (exec who) os w).1
      = Except.ok vk)
    (hguard : guardPasses slot.val (guardRead who device passphrase unlockMethod pin os w)) :
    (opWipeSlot device passphrase unlockMethod pin slot).run (exec who) os w
      = (Except.ok (reported (wipeTail who device passphrase unlockMethod pin slot os w).1),
        (wipeTail who device passphrase unlockMethod pin slot os w).2) := by
  obtain ⟨v, hlook⟩ := wipeLook_run hvk
  rw [opWipeSlot_eq, runOp_run, Prog.run_bind_ok hlook, if_neg hguard, wipeTail, hlook]

/-- **A wipe is stopped before it writes, or it passes its guard and runs its tail.** -/
lemma opWipeSlot_run_cases (who : Option ℕ) (device passphrase unlockMethod pin : String)
    (slot : I32) (os : ℕ → Oracle) (w : World) :
    (w.SameDisk ((opWipeSlot device passphrase unlockMethod pin slot).run (exec who) os w).2
        ∧ ∃ t, ((opWipeSlot device passphrase unlockMethod pin slot).run (exec who) os w).1
          = Except.ok t ∧ t.1 = false)
      ∨ ((∃ vk, ((getVolumeKey device unlockMethod passphrase pin).run (exec who) os w).1
          = Except.ok vk)
        ∧ guardPasses slot.val (guardRead who device passphrase unlockMethod pin os w)
        ∧ (opWipeSlot device passphrase unlockMethod pin slot).run (exec who) os w
          = (Except.ok (reported (wipeTail who device passphrase unlockMethod pin slot os w).1),
            (wipeTail who device passphrase unlockMethod pin slot os w).2)) := by
  have hsame := sameDisk_of_reads who
    (wipeLook_reads device passphrase unlockMethod pin) os w
  cases hvk : ((getVolumeKey device unlockMethod passphrase pin).run (exec who) os w).1 with
  | error e =>
      have hlook : (wipeLook device passphrase unlockMethod pin).run (exec who) os w = _ :=
        Prog.run_bind_error (Prod.ext hvk rfl)
      rw [hlook] at hsame
      rw [opWipeSlot_eq, runOp_run, Prog.run_bind_error hlook]
      exact Or.inl ⟨hsame, opFailed, rfl, rfl⟩
  | ok vk =>
      by_cases hguard : guardPasses slot.val (guardRead who device passphrase unlockMethod pin os w)
      · exact Or.inr ⟨⟨vk, rfl⟩, hguard, opWipeSlot_run_tail hvk hguard⟩
      · obtain ⟨v, hlook⟩ := wipeLook_run hvk
        rw [hlook] at hsame
        rw [opWipeSlot_eq, runOp_run, Prog.run_bind_ok hlook, if_pos (not_not.mp hguard)]
        exact Or.inl ⟨hsame, lastKeyslot, rfl, rfl⟩

/-! ## The tail

What a wipe does to the header once its guard has passed.
-/

/-- The header without the token that a lookup returned, if it returned one. -/
def Header.withoutToken (h : Header) (tokenId : ℤ) : Header :=
  if 0 ≤ tokenId then h.removeToken (asU32 tokenId) else h

/-- How the tail of a wipe turns out once the lookup has returned `tokenId`, and why it failed if
it did. -/
def TailOutcome (A : Oracle → Prop) (device : String) (slot tokenId : ℤ) (w : World)
    (x : Except String Triple) (w' : World) : Prop :=
  match x with
  | Except.ok t => t.1 = true ∧ ∃ h h', (h.withoutToken tokenId).destroyKeyslot (asU32 slot) = some h'
      ∧ w.Wrote device h h' w'
  | Except.error _ => Faulty A ∨ w.header device = none ∨ (0 ≤ tokenId ∧ tokensMax ≤ asU32 tokenId)
      ∨ ∃ h, w.header device = some h
        ∧ (h.withoutToken tokenId).destroyKeyslot (asU32 slot) = none

/-- The destruction of the keyslot, in a state that differs from the first by the token at most. -/
lemma wipeDestroy_tail {slot tokenId : ℤ} {v : World}
    (hnone : v.header device = none → w.header device = none)
    (hsome : ∀ h₁, v.header device = some h₁ → ∃ h, w.header device = some h
      ∧ h.withoutToken tokenId = h₁ ∧ ∀ h' v', v.Wrote device h₁ h' v' → w.Wrote device h h' v') :
    ((destroyKeyslot device slot).bind fun _ => (Prog.ret (true, "", "") : Op Triple)).wp (exec who) A
      (TailOutcome A device slot tokenId w) v := by
  refine Prog.wp_bind (Prog.wp_mono (fun x v' hx => ?_) (destroyKeyslot_session slot v))
  cases x with
  | error e =>
      rcases hx.2 with hf | hn | ⟨o, h₁, e', -, hh, hd⟩
      · exact Or.inl hf
      · exact Or.inr (Or.inl (hnone hn))
      · obtain ⟨h, hstored, rfl, -⟩ := hsome h₁ hh
        exact Or.inr (Or.inr (Or.inr ⟨h, hstored, keyslotDestroy_error hd⟩))
  | ok u =>
      obtain ⟨o, h₁, h', -, hd, hwrote⟩ := hx
      obtain ⟨h, -, rfl, hback⟩ := hsome h₁ hwrote.stored
      exact ⟨rfl, h, h', keyslotDestroy_ok hd, hback h' v' hwrote⟩

/-- Removing the token and destroying the keyslot, in this order. -/
lemma wipeTail_spec {slot tokenId : ℤ} {v : World} (hsame : w.SameDisk v) :
    ((if 0 ≤ tokenId then (setToken device tokenId none).bind fun _ => Prog.ret ()
      else Prog.ret () : Op Unit).bind fun _ => (destroyKeyslot device slot).bind fun _ =>
        (Prog.ret (true, "", "") : Op Triple)).wp (exec who) A
      (TailOutcome A device slot tokenId w) v := by
  split_ifs with hid
  · refine Prog.wp_bind (Prog.wp_bind (Prog.wp_mono (fun x v₁ hx => ?_) (setToken_spec _ _ v)))
    cases x with
    | error e =>
        rcases hx.2 with hf | hn | ⟨o, h, e', -, hh, hset⟩
        · exact Or.inl hf
        · exact Or.inr (Or.inl (hsame.header device ▸ hn))
        · refine Or.inr (Or.inr (Or.inl ⟨hid, ?_⟩))
          by_contra hlt
          simp [tokenInput, Header.jsonSet, lt_of_not_ge hlt] at hset
    | ok n =>
        obtain ⟨o, h, h₁, -, hset, hwrote⟩ := hx
        have hremoved : h.withoutToken tokenId = h₁ := by
          rw [Header.withoutToken, if_pos hid]
          simp only [tokenInput, Header.jsonSet] at hset
          split_ifs at hset
          exact (Prod.mk.inj (Except.ok.inj hset)).2
        have hwrote' := hwrote.of_sameDisk hsame
        refine wipeDestroy_tail (fun hn => ?_) (fun h₂ hh => ?_)
        · rw [hwrote.header] at hn
          cases hn
        · obtain rfl := Option.some.inj (hwrote.header.symm.trans hh)
          exact ⟨h, hwrote'.stored, hremoved, fun h' v' hw => hwrote'.trans hw⟩
  · rw [Prog.bind_ret]
    refine wipeDestroy_tail (fun hn => ?_) (fun h hh => ?_)
    · rw [← hsame.header device, hn]
    · rw [hsame.header device] at hh
      exact ⟨h, hh, if_neg hid, fun h' v' hw => hw.of_sameDisk hsame⟩

/-- **The tail of a wipe, by what its lookup reads.** -/
lemma wipeRest_run (who : Option ℕ) (device : String) (slot : ℤ) {os : ℕ → Oracle}
    (hos : ∀ n, A (os n)) (w : World) :
    TailOutcome A device slot (tokenForKeyslotIn slot (metadataRead who device os w)) w
      ((wipeRest device slot).run (exec who) os w).1
      ((wipeRest device slot).run (exec who) os w).2 := by
  obtain ⟨v, hv, hsame⟩ := metadataJson_run who device os w
  have hlookup : (findTokenForKeyslot device slot).run (exec who) os w
      = (Except.ok (tokenForKeyslotIn slot (metadataRead who device os w)), v) := by
    rw [findTokenForKeyslot, Prog.bind_def, Prog.run_bind_ok hv]
    rfl
  rw [wipeRest, Prog.bind_def, Prog.run_bind_ok hlookup]
  exact Prog.wp_sound (wipeTail_spec hsame) _ fun n => hos _

/-! ## Tokens and keyslots around a wipe

The lookup takes one token, and the token may list more than one keyslot.
-/

/-- The token lists this keyslot and no other. -/
def Token.ListsOnly (t : Token) (s : ℕ) : Prop := s ∈ t.slots ∧ ∀ k ∈ t.slots, k = s

/-- Token `i` lists keyslot `k`. -/
def Header.Lists (h : Header) (i k : ℕ) : Prop := ∃ t, h.tokens i = some t ∧ k ∈ t.slots

/-- **A clean wipe** of keyslot `s`: it is gone and no other is, so is every token that listed
nothing else, and every other keyslot is listed by the tokens that listed it before. -/
structure Header.WipedClean (h : Header) (s : ℕ) (h' : Header) : Prop where
  keyslots : h'.keyslots = Function.update h.keyslots s none
  tokens : ∀ i t, h.tokens i = some t → t.ListsOnly s → h'.tokens i = none
  others : ∀ k, k ≠ s → ∀ i, h'.Lists i k ↔ h.Lists i k

/-- The lookup returned the token that lists `s` alone, and there is no second one; or it returned
none and there is none. -/
def Header.LookupFits (h : Header) (s : ℕ) (tokenId : ℤ) : Prop :=
  ∀ i t, h.tokens i = some t → (tokenId = (i : ℤ) ↔ t.ListsOnly s)

/-- The lookup finds a token that lists the keyslot, or none. -/
lemma tokenForKeyslotIn_found {h : Header} {m : Option Json} (hm : m = none ∨ m = some h.dump)
    (s : ℕ) : tokenForKeyslotIn s m = -1 ∨ ∃ (i : ℕ) (t : Token),
      tokenForKeyslotIn s m = i ∧ i < tokensMax ∧ h.tokens i = some t ∧ s ∈ t.slots := by
  rcases hm with rfl | rfl
  · exact Or.inl rfl
  · rcases tokenForKeyslotIn_dump h s with ⟨hnone, -⟩ | ⟨i, t, hi, hlt, ht, k, hk, hks⟩
    · exact Or.inl hnone
    · obtain rfl : s = k := by omega
      exact Or.inr ⟨i, t, hi, hlt, ht, hk⟩

/-- The tokens that are left once a found token is gone and the keyslot destroyed. -/
lemma wiped_tokens {h h' : Header} {s : ℕ} {tokenId : ℤ}
    (hfound : tokenId = -1 ∨ ∃ i : ℕ, tokenId = i ∧ i < tokensMax)
    (hd : (h.withoutToken tokenId).destroyKeyslot s = some h') (i : ℕ) :
    h'.tokens i = if tokenId = (i : ℤ) then none else (h.tokens i).map (Token.drop s) := by
  rw [(Header.destroyKeyslot_spec hd).2.2.1 i]
  rcases hfound with rfl | ⟨j, rfl, hj⟩
  · rw [if_neg (by omega)]
    rfl
  · have hj32 : asU32 (j : ℤ) = j := asU32_natCast (lt_trans hj (by decide))
    rw [Header.withoutToken, if_pos (by omega), hj32]
    by_cases hij : j = i
    · simp [Header.removeToken, hij]
    · rw [if_neg (by omega)]
      simp [Header.removeToken, Function.update_of_ne (Ne.symm hij)]

/-- **A wipe is clean exactly when its lookup fits.** -/
lemma wipedClean_iff {h h' : Header} {s : ℕ} {m : Option Json}
    (hm : m = none ∨ m = some h.dump)
    (hd : (h.withoutToken (tokenForKeyslotIn s m)).destroyKeyslot s = some h') :
    h.WipedClean s h' ↔ h.LookupFits s (tokenForKeyslotIn s m) := by
  have hfound := tokenForKeyslotIn_found hm s
  generalize tokenForKeyslotIn s m = tokenId at hd hfound
  have hindex : tokenId = -1 ∨ ∃ i : ℕ, tokenId = i ∧ i < tokensMax := by
    rcases hfound with hnone | ⟨i, t, hi, hlt, -⟩
    · exact Or.inl hnone
    · exact Or.inr ⟨i, hi, hlt⟩
  have hleft := wiped_tokens hindex hd
  have hdrop : ∀ {t : Token} {k : ℕ}, k ≠ s → (k ∈ (Token.drop s t).slots ↔ k ∈ t.slots) := by
    intro t k hk
    simp [Token.drop, hk]
  constructor
  · rintro ⟨-, htokens, hothers⟩ i t ht
    constructor
    · -- a token that was removed listed `s`, and whatever else it listed has lost it
      intro hid
      obtain ⟨j, t', hj, -, ht', hs⟩ := hfound.resolve_left (by omega)
      obtain rfl : j = i := by omega
      obtain rfl : t' = t := Option.some.inj (ht'.symm.trans ht)
      refine ⟨hs, fun k hk => ?_⟩
      by_contra hne
      obtain ⟨t'', ht'', -⟩ := (hothers k hne j).mpr ⟨t', ht, hk⟩
      rw [hleft, if_pos hid] at ht''
      cases ht''
    · intro honly
      by_contra hid
      have hgone := htokens i t ht honly
      rw [hleft, if_neg hid, ht] at hgone
      cases hgone
  · intro hfits
    refine ⟨?_, fun i t ht honly => ?_, fun k hk i => ?_⟩
    · rw [(Header.destroyKeyslot_spec hd).2.1, Header.withoutToken]
      split_ifs <;> rfl
    · rw [hleft, if_pos ((hfits i t ht).mpr honly)]
    · constructor
      · rintro ⟨t, ht, hkt⟩
        rw [hleft] at ht
        split_ifs at ht
        obtain ⟨t', ht', rfl⟩ := Option.map_eq_some_iff.mp ht
        exact ⟨t', ht', (hdrop hk).mp hkt⟩
      · rintro ⟨t, ht, hkt⟩
        have hid : tokenId ≠ i := fun hid => hk (((hfits i t ht).mp hid).2 k hkt)
        exact ⟨Token.drop s t, by rw [hleft, if_neg hid, ht]; rfl, (hdrop hk).mpr hkt⟩

/-- A read after a program that only reads is of the header as it was. -/
lemma readAfter_cases {α : Type} (who : Option ℕ) {p : Op α} (hp : p.AllCalls (Cmd.ReadsOn device))
    (os : ℕ → Oracle) {h : Header} (hh : w.header device = some h) :
    readAfter who device p os w = none ∨ readAfter who device p os w = some h.dump := by
  have hsame := sameDisk_of_reads who hp os w
  cases hm : readAfter who device p os w with
  | none => exact Or.inl rfl
  | some metadata =>
      obtain ⟨h', hh', rfl⟩ := metadataRead_some hm
      rw [hsame.header, hh] at hh'
      rw [Option.some.inj hh']
      exact Or.inr rfl

/-- **Wiping and the other enrollments.**  For every header, whatever lists what, and every run of
a wipe that reports success: the wipe is clean exactly when the token its lookup returned lists the
keyslot alone and no other token does, or it returned none and no token does.  A lookup whose read
fails returns none. -/
theorem wipe_clean_iff (device passphrase unlockMethod pin : String) (slot : I32)
    (who : Option ℕ) (os : ℕ → Oracle) (w : World) {h : Header} (hh : w.header device = some h)
    {out err : String}
    (hok : ((opWipeSlot device passphrase unlockMethod pin slot).run (exec who) os w).1
      = Except.ok (true, out, err)) :
    ∃ (s : ℕ) (h' : Header), slot.val = s
      ∧ ((opWipeSlot device passphrase unlockMethod pin slot).run (exec who) os w).2.header device
        = some h'
      ∧ (h.WipedClean s h' ↔ h.LookupFits s
        (tokenForKeyslotIn s (lookupRead who device passphrase unlockMethod pin os w))) := by
  rcases opWipeSlot_run_cases who device passphrase unlockMethod pin slot os w
    with ⟨-, t, ht, hfalse⟩ | ⟨-, -, hrun⟩
  · rw [hok] at ht
    rw [← Except.ok.inj ht] at hfalse
    cases hfalse
  · rw [hrun] at hok ⊢
    have hsame := sameDisk_of_reads who
      (wipeLook_reads device passphrase unlockMethod pin) os w
    have htail := @wipeRest_run (fun _ => True) who device slot.val
      (Prog.after ((wipeLook device passphrase unlockMethod pin).steps (exec who) os w) os)
      (fun _ => trivial) ((wipeLook device passphrase unlockMethod pin).run (exec who) os w).2
    cases hx : (wipeTail who device passphrase unlockMethod pin slot os w).1 with
    | error e =>
        rw [hx] at hok
        cases hok
    | ok t =>
        rw [wipeTail] at hx
        rw [hx] at htail
        obtain ⟨-, h₀, h', hd, hwrote⟩ := htail
        obtain rfl : h₀ = h := by
          rw [← Option.some.injEq, ← hh, ← hsame.header device]
          exact hwrote.stored.symm
        have hexists := (Header.destroyKeyslot_spec hd).1
        have hslot := asU32_eq hexists
        have hread := readAfter_cases who
          (wipeLook_reads device passphrase unlockMethod pin) os hh
        refine ⟨asU32 slot.val, h', hslot, hwrote.header, ?_⟩
        rw [hslot] at hd
        rw [asU32_natCast (lt_trans (Header.lt_of_mem_slotIds (Header.mem_slotIds.mpr hexists))
          (by decide))] at hd
        exact wipedClean_iff hread hd

/-- Two passphrases, the second listed by a token of its own. -/
def ownToken : Header :=
  Header.ofEntries ⟨[7]⟩ [⟨"luks2", asBytes "pw", true, none⟩, ⟨"luks2", asBytes "pw2", true, none⟩]
    [⟨[("type", Json.str tokenTypeRecovery)], [1], none⟩] (by decide) (by decide) (by decide)

/-- Two passphrases, listed by one token that another tool wrote. -/
def sharedToken : Header :=
  Header.ofEntries ⟨[7]⟩ [⟨"luks2", asBytes "pw", true, none⟩, ⟨"luks2", asBytes "pw2", true, none⟩]
    [⟨[("type", Json.str "other")], [0, 1], none⟩] (by decide) (by decide) (by decide)

/-- A wipe of keyslot 1, nothing disturbing it. -/
def wipeOne (h : Header) : Except String Triple × World :=
  (opWipeSlot "/dev/sdb1" "pw" "passphrase" "" ⟨1, i32_one⟩).run (exec none)
    (fun _ => Oracle.quiet) (volumeWith h)

/-- Both wipes of the example say that they are done. -/
lemma wipeOne_ok : (wipeOne ownToken).1 = Except.ok (true, "", "")
    ∧ (wipeOne sharedToken).1 = Except.ok (true, "", "") := by
  constructor <;> decide +kernel

/-- **Wiping keyslot 1 takes the token of keyslot 0 with it.** -/
theorem wipe_strips_other_keyslot : (wipeOne sharedToken).1 = Except.ok (true, "", "")
    ∧ (volumeWith sharedToken).header "/dev/sdb1" = some sharedToken
    ∧ ∀ h', (wipeOne sharedToken).2.header "/dev/sdb1" = some h' →
      ¬ sharedToken.WipedClean 1 h' := by
  refine ⟨wipeOne_ok.2, rfl, fun h' hh' hclean => ?_⟩
  have hgone : ((wipeOne sharedToken).2.header "/dev/sdb1").map (fun h' => (h'.tokens 0).isSome)
      = some false := by decide +kernel
  obtain ⟨t, ht, -⟩ := (hclean.others 0 (by decide) 0).mpr ⟨_, rfl, by decide⟩
  rw [hh'] at hgone
  simp [ht] at hgone

/-- The token that lists keyslot 1 alone goes with it: a clean wipe. -/
theorem wipe_own_token_clean : ∃ (s : ℕ) (h' : Header), (1 : ℤ) = s
    ∧ (wipeOne ownToken).2.header "/dev/sdb1" = some h' ∧ ownToken.WipedClean s h' := by
  obtain ⟨s, h', hs, hh', hiff⟩ := wipe_clean_iff "/dev/sdb1" "pw" "passphrase" ""
    ⟨1, i32_one⟩ none (fun _ => Oracle.quiet) (volumeWith ownToken) (h := ownToken) rfl
    wipeOne_ok.1
  refine ⟨s, h', hs, hh', hiff.mpr ?_⟩
  obtain rfl : s = 1 := by simpa using hs.symm
  have hfound : tokenForKeyslotIn (1 : ℕ) (lookupRead none "/dev/sdb1" "pw" "passphrase" ""
      (fun _ => Oracle.quiet) (volumeWith ownToken)) = 0 := by decide +kernel
  rintro i t ht
  rw [hfound]
  cases i with
  | zero =>
      obtain rfl := Option.some.inj ht
      simp [Token.ListsOnly]
  | succ i => cases ht

/-! ## The last keyslot that holds the volume key

The guard counts entries.  What a keyslot holds is not seen by it.
-/

/-- The volume key can be obtained from keyslot `k`. -/
def Header.Holds (h : Header) (k : ℕ) : Prop :=
  ∃ ks, h.keyslots k = some ks ∧ ks.holdsVolumeKey = true

/-- `s` is the one keyslot that holds the volume key. -/
def Header.LastHolder (h : Header) (s : ℤ) : Prop :=
  (∃ k : ℕ, s = k ∧ h.Holds k) ∧ ∀ k : ℕ, h.Holds k → s = k

/-- The volume key can still be obtained from the header at `device`, if it could before. -/
def KeepsHolder (device : String) (w w' : World) : Prop :=
  ∀ h, w.header device = some h → (∃ k, h.Holds k) →
    ∃ h', w'.header device = some h' ∧ ∃ k, h'.Holds k

/-- The credential yields a volume key, if only the hardware and the reads go along. -/
def CanUnlock (who : Option ℕ) (device passphrase unlockMethod pin : String) (w : World) : Prop :=
  ∃ os vk, ((getVolumeKey device unlockMethod passphrase pin).run (exec who) os w).1
    = Except.ok vk

/-- Without a token the keyslots are the same. -/
lemma withoutToken_keyslots (h : Header) (tokenId : ℤ) :
    (h.withoutToken tokenId).keyslots = h.keyslots := by
  rw [Header.withoutToken]
  split_ifs <;> rfl

lemma guardPasses_of_other {h : Header} {slot : ℤ} {k : ℕ} (hk : (h.keyslots k).isSome)
    (hne : (k : ℤ) ≠ slot) : guardPasses slot (some h.dump) := by
  rintro ⟨hlen, hslot⟩
  have hmem : (k : ℤ) ∈ (keyslotsIn (some h.dump)).keys := mem_keyslotsIn_dump.mpr ⟨k, rfl, hk⟩
  have hlen' : (keyslotsIn (some h.dump)).keys.length ≤ 1 := by
    rw [OrderedMap.keys, List.length_map]
    exact hlen
  generalize (keyslotsIn (some h.dump)).keys = l at hslot hmem hlen'
  cases l with
  | nil => cases hslot
  | cons a l =>
      obtain rfl : l = [] := List.length_eq_zero_iff.mp (by simpa using hlen')
      rw [List.mem_singleton] at hslot hmem
      exact hne (hmem.trans hslot.symm)

/-- A keyslot destroyed that was not the last holder. -/
lemma holder_of_destroyed {slot : I32} {h h₁ h' : Header} (hks₁ : h₁.keyslots = h.keyslots)
    (hd : h₁.destroyKeyslot (asU32 slot.val) = some h') (hlast : ¬ h.LastHolder slot.val)
    {k : ℕ} (hk : h.Holds k) : ∃ k, h'.Holds k := by
  obtain ⟨hexists, hks, -⟩ := Header.destroyKeyslot_spec hd
  rw [hks₁] at hexists hks
  have hslot := asU32_eq hexists
  obtain ⟨j, ⟨ks, hj, hholds⟩, hne⟩ : ∃ k, h.Holds k ∧ k ≠ asU32 slot.val := by
    by_contra hall
    push Not at hall
    refine hlast ⟨⟨_, hslot, hall k hk ▸ hk⟩, fun j hj => ?_⟩
    rw [hall j hj]
    exact hslot
  exact ⟨j, ks, by rw [hks, Function.update_of_ne hne, hj], hholds⟩

/-- **Whatever else happens**, only a wipe of the last holder takes the last holder. -/
lemma SlotEffect.keepsHolder {passphrase unlockMethod pin : String} {slot : I32} {w' : World}
    {ok : Bool} {h : Header} (hh : w.header device = some h) (hlast : ¬ h.LastHolder slot.val)
    (heffect : SlotEffect A who w w'
      (SlotRequest.wipeSlot device passphrase unlockMethod pin slot) ok) :
    KeepsHolder device w w' := by
  rintro h₀ hh₀ ⟨k, hk⟩
  obtain rfl : h₀ = h := Option.some.inj (hh₀.symm.trans hh)
  cases heffect with
  | nothing hsame => exact ⟨h₀, (hsame.header device).trans hh, k, hk⟩
  | enrolled hr => exact hr.elim
  | keyslotOnly hr => exact hr.elim
  | wiped hdrop hd hwrote =>
      obtain rfl := Option.some.inj (hwrote.stored.symm.trans hh)
      refine ⟨_, hwrote.header, holder_of_destroyed ?_ hd hlast hk⟩
      rcases hdrop with ⟨rfl, -⟩ | ⟨j, t, -, -, rfl⟩ <;> rfl
  | tokenOnly _ _ hwrote =>
      obtain rfl := Option.some.inj (hwrote.stored.symm.trans hh)
      exact ⟨_, hwrote.header, k, hk⟩

/-- A wipe of the last holder whose guard reads the header and finds a single keyslot is
stopped. -/
lemma keepsHolder_of_guard {passphrase unlockMethod pin : String} {slot : I32} {os : ℕ → Oracle}
    {h : Header} (hh : w.header device = some h)
    (hread : (guardRead who device passphrase unlockMethod pin os w).isSome)
    (hlast : h.LastHolder slot.val) (honly : ∀ k, (h.keyslots k).isSome → (k : ℤ) = slot.val) :
    KeepsHolder device w
      ((opWipeSlot device passphrase unlockMethod pin slot).run (exec who) os w).2 := by
  rcases opWipeSlot_run_cases who device passphrase unlockMethod pin slot os w
    with ⟨hsame, -⟩ | ⟨-, hguard, -⟩
  · exact fun h₀ hh₀ hk => ⟨h₀, (hsame.header device).trans hh₀, hk⟩
  · rcases readAfter_cases who (getVolumeKey_reads device unlockMethod passphrase pin) os hh
      with hnone | hdump
    · rw [guardRead, hnone] at hread
      cases hread
    · rw [guardRead, hdump] at hguard
      obtain ⟨⟨s, hs, ks, hks, -⟩, -⟩ := hlast
      obtain ⟨k, hne, hk⟩ := guardPasses_other hs hguard (by rw [hks]; rfl)
      have := honly k hk
      omega

/-! ### A run that takes it

The credential is accepted, then the guard's first call fails or it does not, and nothing else
goes wrong. -/

/-- The inputs from the guard on. -/
def blindGuard (readable : Bool) : ℕ → Oracle := fun m =>
  if m = 0 ∧ readable = false then { fault := some "Device or resource busy (os error 16)" }
  else Oracle.quiet

/-- What the guard sees when its read is in order, or is not. -/
lemma blindGuard_read (readable : Bool) {h : Header} (hh : w.header device = some h) :
    metadataRead who device (blindGuard readable) w = if readable then some h.dump else none := by
  cases readable with
  | true =>
      have hquiet : ∀ n, Undisturbed (blindGuard true n) := by
        intro n
        simp [blindGuard, Undisturbed, Oracle.quiet]
      exact metadataRead_of_not_faulty not_faulty_undisturbed hquiet hh
  | false => exact metadataRead_fault rfl w

/-- Nothing that is read holds the guard back. -/
lemma guardPasses_none (slot : ℤ) : guardPasses slot none := by
  rintro ⟨-, hmem⟩
  cases hmem

/-- An undisturbed tail of a wipe of a keyslot that exists destroys it. -/
lemma wipeRest_destroys (who : Option ℕ) {slot : I32} {os : ℕ → Oracle} (hos : ∀ n, Undisturbed (os n))
    {h : Header} (hh : w.header device = some h) {s : ℕ} (hs : slot.val = s)
    (hexists : (h.keyslots s).isSome) :
    ∃ h', ((wipeRest device slot.val).run (exec who) os w).2.header device = some h'
      ∧ h'.keyslots = Function.update h.keyslots s none := by
  have hs32 : asU32 slot.val = s := by
    rw [hs]
    exact asU32_natCast (lt_trans (Header.lt_of_mem_slotIds (Header.mem_slotIds.mpr hexists))
      (by decide))
  have hread : metadataRead who device os w = some h.dump :=
    metadataRead_of_not_faulty not_faulty_undisturbed hos hh
  have hfound := tokenForKeyslotIn_found (Or.inr hread) s
  have htail := wipeRest_run who device slot.val hos w
  rw [hs] at htail ⊢
  generalize tokenForKeyslotIn s (metadataRead who device os w) = tokenId at hfound htail
  cases hx : ((wipeRest device s).run (exec who) os w).1 with
  | ok t =>
      rw [hx] at htail
      obtain ⟨-, h₀, h', hd, hwrote⟩ := htail
      obtain rfl := Option.some.inj (hwrote.stored.symm.trans hh)
      refine ⟨h', hwrote.header, ?_⟩
      rw [(Header.destroyKeyslot_spec hd).2.1, withoutToken_keyslots, ← hs, hs32]
  | error e =>
      rw [hx] at htail
      rcases htail with hf | hn | ⟨h0, hmax⟩ | ⟨h₀, hh₀, hd⟩
      · exact absurd hf not_faulty_undisturbed
      · exact absurd (hn.symm.trans hh) (by simp)
      · obtain ⟨i, t, rfl, hi, -⟩ := hfound.resolve_left (by omega)
        rw [asU32_natCast (lt_trans hi (by decide))] at hmax
        omega
      · obtain rfl := Option.some.inj (hh₀.symm.trans hh)
        rw [← hs, hs32] at hd
        simp [Header.destroyKeyslot, withoutToken_keyslots, hexists] at hd

/-- A guard that sees nothing, or counts an entry that holds no key, lets the last one go. -/
lemma blindWipe_takes_last {passphrase unlockMethod pin : String} {slot : I32} {h : Header}
    {readable : Bool} {unlock : ℕ → Oracle} {vk : VolumeKey} (hh : w.header device = some h)
    (hlast : h.LastHolder slot.val)
    (hother : readable = false ∨ ∃ k : ℕ, (k : ℤ) ≠ slot.val ∧ (h.keyslots k).isSome)
    (hvk : ((getVolumeKey device unlockMethod passphrase pin).run (exec who) unlock w).1
      = Except.ok vk) :
    ∃ os, (guardRead who device passphrase unlockMethod pin os w).isSome = readable
      ∧ ¬ KeepsHolder device w
        ((opWipeSlot device passphrase unlockMethod pin slot).run (exec who) os w).2 := by
  set p := getVolumeKey device unlockMethod passphrase pin with hp
  set n := p.steps (exec who) unlock w with hn
  obtain ⟨hrun, hsteps⟩ := Prog.run_splice (exec who) p unlock (blindGuard readable) w
  rw [← hn] at hrun hsteps
  set os := Prog.splice n unlock (blindGuard readable) with hos
  have hsame := sameDisk_of_reads who
    (getVolumeKey_reads device unlockMethod passphrase pin) os w
  have hread : guardRead who device passphrase unlockMethod pin os w
      = if readable then some h.dump else none := by
    rw [guardRead, readAfter, ← hp, hsteps, Prog.after_splice]
    exact blindGuard_read readable ((hsame.header device).trans hh)
  refine ⟨os, by cases readable <;> simp [hread], fun hkeeps => ?_⟩
  have hguard : guardPasses slot.val (guardRead who device passphrase unlockMethod pin os w) := by
    rw [hread]
    cases readable with
    | false => exact guardPasses_none _
    | true =>
        obtain ⟨k, hne, hk⟩ := hother.resolve_left (by decide)
        exact guardPasses_of_other hk hne
  have hlook := sameDisk_of_reads who
    (wipeLook_reads device passphrase unlockMethod pin) os w
  -- the one fault, if any, is used up by the guard
  have hquiet : ∀ m, Undisturbed
      (Prog.after ((wipeLook device passphrase unlockMethod pin).steps (exec who) os w) os m) := by
    intro m
    rw [wipeLook, Prog.steps_bind_ok (Prod.ext (congrArg Prod.fst hrun |>.trans hvk) rfl),
      Prog.after_add, hsteps, Prog.after_splice]
    exact congrArg Oracle.fault (if_neg (fun hm => Nat.succ_ne_zero _ hm.1))
  obtain ⟨⟨s, hs, ks, hks, hholds⟩, hall⟩ := hlast
  obtain ⟨h', hh', hks'⟩ := wipeRest_destroys who hquiet
    ((hlook.header device).trans hh) hs (by rw [hks]; rfl)
  rw [opWipeSlot_run_tail (congrArg Prod.fst hrun |>.trans hvk) hguard] at hkeeps
  obtain ⟨h'', hh'', k, ks', hk, hholds'⟩ := hkeeps h hh ⟨s, ks, hks, hholds⟩
  obtain rfl := Option.some.inj (hh''.symm.trans hh')
  rw [hks'] at hk
  by_cases hsk : k = s
  · simp [hsk] at hk
  · rw [Function.update_of_ne hsk] at hk
    have := hall k ⟨ks', hk, hholds'⟩
    omega

/-- **The last holder and the guard.**  For every header, slot and credential, and for either
outcome of the guard's read: every run of a wipe leaves a keyslot that holds the volume key, unless
the credential can unlock the volume, the slot is the one keyslot that holds the volume key, and
the guard reads nothing or counts a keyslot that does not hold it. -/
theorem wipe_keeps_holder_iff (device passphrase unlockMethod pin : String) (slot : I32)
    (who : Option ℕ) (w : World) {h : Header} (hh : w.header device = some h) (readable : Bool) :
    (∀ os, (guardRead who device passphrase unlockMethod pin os w).isSome = readable →
        KeepsHolder device w
          ((opWipeSlot device passphrase unlockMethod pin slot).run (exec who) os w).2)
      ↔ ¬ (CanUnlock who device passphrase unlockMethod pin w ∧ h.LastHolder slot.val
        ∧ (readable = false ∨ ∃ k : ℕ, (k : ℤ) ≠ slot.val ∧ (h.keyslots k).isSome)) := by
  constructor
  · rintro hall ⟨⟨unlock, vk, hvk⟩, hlast, hother⟩
    obtain ⟨os, hread, htaken⟩ := blindWipe_takes_last hh hlast hother hvk
    exact htaken (hall os hread)
  · intro hnot os hread
    by_cases hlast : h.LastHolder slot.val
    · rcases opWipeSlot_run_cases who device passphrase unlockMethod pin slot
        os w with ⟨hsame, -⟩ | ⟨hvk, -, -⟩
      · exact fun h₀ hh₀ hk => ⟨h₀, (hsame.header device).trans hh₀, hk⟩
      · have hblind := fun hother => hnot ⟨⟨os, hvk⟩, hlast, hother⟩
        refine keepsHolder_of_guard hh ?_ hlast fun k hk => ?_
        · rw [hread]
          cases readable with
          | true => rfl
          | false => exact absurd (Or.inl rfl) hblind
        · by_contra hne
          exact hblind (Or.inr ⟨k, hne, hk⟩)
    · obtain ⟨t, -, heffect⟩ := @SlotRequest.run_effect who (fun _ => True)
        (SlotRequest.wipeSlot device passphrase unlockMethod pin slot) w os fun _ => trivial
      exact heffect.keepsHolder hh hlast

/-- A passphrase, and a keyslot that a reencryption left behind. -/
def reencryptLeft : Header :=
  Header.ofKeyslots ⟨[7]⟩ [⟨"luks2", asBytes "pw", true, none⟩, ⟨"reencrypt", [], false, none⟩]
    (by decide)

/-- A wipe of keyslot 0. -/
def wipeZero (h : Header) (os : ℕ → Oracle) : Except String Triple × World :=
  (opWipeSlot "/dev/sdb1" "pw" "passphrase" "" ⟨0, i32_zero⟩).run (exec none) os (volumeWith h)

/-- **The guard counts the leftover keyslot**: the one that holds the volume key is wiped, and the
wipe reports success. -/
theorem wipe_takes_last_holder :
    (wipeZero reencryptLeft fun _ => Oracle.quiet).1 = Except.ok (true, "", "")
      ∧ ¬ KeepsHolder "/dev/sdb1" (volumeWith reencryptLeft)
        (wipeZero reencryptLeft fun _ => Oracle.quiet).2 := by
  refine ⟨by decide +kernel, fun hkeeps => ?_⟩
  obtain ⟨h', hh', k, ks, hk, hholds⟩ := hkeeps reencryptLeft rfl ⟨0, _, rfl, rfl⟩
  have hleft : ((wipeZero reencryptLeft fun _ => Oracle.quiet).2.header "/dev/sdb1").map
      (fun h => h.slotIds.filter fun i => ((h.keyslots i).map Keyslot.holdsVolumeKey).getD false)
      = some [] := by decide +kernel
  rw [hh', Option.map_some, Option.some.injEq, List.filter_eq_nil_iff] at hleft
  have := hleft k (Header.mem_slotIds.mpr (by rw [hk]; rfl))
  simp [hk, hholds] at this

/-- With two passphrases and a guard that can read, wiping one leaves the other. -/
theorem wipe_keeps_second_passphrase :
    KeepsHolder "/dev/sdb1" (volumeWith ownToken) (wipeZero ownToken fun _ => Oracle.quiet).2 := by
  refine (wipe_keeps_holder_iff "/dev/sdb1" "pw" "passphrase" "" ⟨0, i32_zero⟩ none
    (volumeWith ownToken) (h := ownToken) rfl true).mpr ?_ (fun _ => Oracle.quiet)
    (by decide +kernel)
  rintro ⟨-, ⟨-, hall⟩, -⟩
  have := hall 1 ⟨_, rfl, rfl⟩
  simp at this

end LuksEnroll
