import LuksEnroll.Outcomes

/-!
# What a failed request leaves behind

An enrollment writes a keyslot and then a token; a wipe removes a token and then a keyslot.  The two
writes are separate sessions of libcryptsetup (`crypt_init`, `crypt_load`, the write), and nothing
undoes the first when the second fails.

* An enrollment that reports failure has left the headers alone, or it has left its keyslot: then its
  calls end with the addition of that keyslot, which succeeded, and a session for the token of the very
  keyslot, which failed (`LeavesKeyslot`).
* A wipe that reports failure has left the headers alone, or it has left its token removal: then its
  calls end with the removal of a token that lists the keyslot, which succeeded, and a session for the
  destruction of the keyslot, which failed (`LeavesTokenRemoved`).
* A passphrase enrollment, which writes once, leaves nothing.

That is `failed_request_effect`, for every header, all arguments and every pattern of failing calls.  A
session fails at the first of its three calls that fails, and says nothing after that (`FailedSession`).
-/

namespace LuksEnroll

open Library

variable {who : Option ℕ} {device : String} {w : World} {α : Type}

/-! ## Failed sessions

A session opens the header, and ends in one write.  Its record tells which call was the last, so
that the failure of the write can be told from the failure before it.
-/

/-- The calls of a session that was to end in this write, up to the one that failed. -/
inductive FailedSession (device : String) : Cmd → List (Answered Cmd Reply) → Prop
  | init {write : Cmd} {e : String} :
      FailedSession device write [⟨Cmd.init device, (Except.error e : Except String Unit)⟩]
  | load {write : Cmd} {e : String} :
      FailedSession device write [⟨Cmd.init device, (Except.ok () : Except String Unit)⟩,
        ⟨Cmd.load device, (Except.error e : Except String Header)⟩]
  | token {input : TokenInput} {h : Header} {e : String} :
      FailedSession device (Cmd.tokenJsonSet device input)
        [⟨Cmd.init device, (Except.ok () : Except String Unit)⟩,
          ⟨Cmd.load device, (Except.ok h : Except String Header)⟩,
          ⟨Cmd.tokenJsonSet device input, (Except.error e : Except String ℕ)⟩]
  | keyslot {slot : ℕ} {h : Header} {e : String} :
      FailedSession device (Cmd.keyslotDestroy device slot)
        [⟨Cmd.init device, (Except.ok () : Except String Unit)⟩,
          ⟨Cmd.load device, (Except.ok h : Except String Header)⟩,
          ⟨Cmd.keyslotDestroy device slot, (Except.error e : Except String Unit)⟩]

/-- A session of one write: it ends with that write, or it failed. -/
lemma session_recorded {c : Cmd} {r : Reply c → Except String α} {word : String → String}
    (hfailed : ∀ h e reply, r reply = Except.error e →
      FailedSession device c [⟨Cmd.init device, (Except.ok () : Except String Unit)⟩,
        ⟨Cmd.load device, (Except.ok h : Except String Header)⟩, ⟨c, reply⟩])
    (l : List (Answered Cmd Reply)) :
    ((openLuks2 device).bind fun _ => (ask c).bind fun x => orFail (r x) word).wp
      (Prog.recording (exec who)) (fun _ => True)
      (fun x t => match x with
        | Except.ok a => ∃ before reply, t.2 = before ++ [⟨c, reply⟩] ∧ r reply = Except.ok a
        | Except.error _ => ∃ session, t.2 = l ++ session ∧ FailedSession device c session) (w, l) := by
  refine Prog.wp_bind (wp_ask_orFail (c := Cmd.init device) (r := id) (fun o u _ hinit => ?_)
    (fun o e _ hinit => ?_))
  · refine wp_ask_orFail_last (c := Cmd.load device) (r := id) (fun o' h _ hload => ?_)
      (fun o' e _ hload => ?_)
    · refine wp_ask_orFail_last (fun o'' a _ ha => ⟨_, _, rfl, ha⟩) (fun o'' e _ he => ?_)
      refine ⟨_, ?_, hfailed h e _ he⟩
      simp only [id] at hinit hload
      simp only [Prog.recording] at hinit hload ⊢
      rw [hinit, hload]
      simp
    · refine ⟨_, ?_, FailedSession.load (e := e)⟩
      simp only [id] at hinit hload
      simp only [Prog.recording] at hinit hload ⊢
      rw [hinit, hload]
      simp
  · refine ⟨_, ?_, FailedSession.init (e := e)⟩
    simp only [id] at hinit
    simp only [Prog.recording] at hinit ⊢
    rw [hinit]

lemma setToken_recorded (tokenId : ℤ) (json : Option Json) (l : List (Answered Cmd Reply)) :
    (setToken device tokenId json).wp (Prog.recording (exec who)) (fun _ => True)
      (fun x t => match x with
        | Except.ok j => ∃ before, t.2 = before
            ++ [⟨Cmd.tokenJsonSet device (tokenInput tokenId json), (Except.ok j : Except String ℕ)⟩]
        | Except.error _ => ∃ session, t.2 = l ++ session
            ∧ FailedSession device (Cmd.tokenJsonSet device (tokenInput tokenId json)) session)
      (w, l) := by
  refine Prog.wp_mono (fun x t hx => ?_) (session_recorded
    (c := Cmd.tokenJsonSet device (tokenInput tokenId json)) (r := id)
    (fun h e reply he => ?_) l)
  · cases x with
    | ok j =>
        obtain ⟨before, reply, ht, rfl⟩ := hx
        exact ⟨before, ht⟩
    | error e => exact hx
  · rw [show reply = (Except.error e : Except String ℕ) from he]
    exact FailedSession.token

lemma destroyKeyslot_recorded (slot : ℤ) (l : List (Answered Cmd Reply)) :
    (destroyKeyslot device slot).wp (Prog.recording (exec who)) (fun _ => True)
      (fun x t => ∀ e, x = Except.error e → ∃ session, t.2 = l ++ session
        ∧ FailedSession device (Cmd.keyslotDestroy device (asU32 slot)) session) (w, l) := by
  refine Prog.wp_mono (fun x t hx e he => ?_) (session_recorded
    (c := Cmd.keyslotDestroy device (asU32 slot)) (r := id) (fun h e reply he => ?_) l)
  · rw [he] at hx
    exact hx
  · rw [show reply = (Except.error e : Except String Unit) from he]
    exact FailedSession.keyslot

/-- Whatever comes before it, the addition of a keyslot is the last call of the session. -/
lemma addKeyslot_recorded (vk : VolumeKey) (pw : Bytes) (minimalPbkdf : Bool)
    (l : List (Answered Cmd Reply)) :
    (addKeyslotByVolumeKey device vk pw minimalPbkdf).wp (Prog.recording (exec who)) (fun _ => True)
      (fun x t => ∀ i, x = Except.ok i → ∃ before, t.2 = before
        ++ [⟨Cmd.addByKey device (some vk) pw, (Except.ok i : Except String ℕ)⟩]) (w, l) := by
  have hlast : ∀ t : World × List (Answered Cmd Reply),
      ((ask (Cmd.addByKey device (some vk) pw)).bind fun x => orFail x fun e =>
        "crypt_keyslot_add_by_key failed: " ++ e).wp (Prog.recording (exec who)) (fun _ => True)
        (fun x t => ∀ i, x = Except.ok i → ∃ before, t.2 = before
          ++ [⟨Cmd.addByKey device (some vk) pw, (Except.ok i : Except String ℕ)⟩]) t := by
    intro t
    refine wp_ask_orFail_last (c := Cmd.addByKey device (some vk) pw) (r := id) (fun o i _ hi => ?_)
      (fun o e _ _ i hi => by cases hi)
    intro j hj
    obtain rfl := Except.ok.inj hj
    refine ⟨t.2, ?_⟩
    simp only [Prog.recording, id] at hi ⊢
    rw [hi]
  have hfails : ∀ (e : String) (t : World × List (Answered Cmd Reply)), ∀ i : ℕ,
      (Except.error e : Except String ℕ) = Except.ok i → ∃ before, t.2 = before
        ++ [⟨Cmd.addByKey device (some vk) pw, (Except.ok i : Except String ℕ)⟩] := by
    intro e t i hi
    cases hi
  refine Prog.wp_bind (Prog.wp_mono (fun x t _ => ?_) (Prog.wp_recording (openLuks2_spec w) l))
  cases x with
  | error e => exact hfails e t
  | ok h =>
      refine Prog.wp_bind (Prog.wp_mono (fun y t' _ => ?_)
        (Prog.wp_recording (@choosePbkdf_reason who _ device _ minimalPbkdf _
          (World.SameDisk.refl t.1)) t.2))
      cases y with
      | error e => exact hfails e t'
      | ok u => exact hlast t'

/-! ## What stays

What a failed request may leave: nothing, a keyslot without a token, or a keyslot whose token is
gone.  Each of the last two comes with the failed write in the record.
-/

/-- One keyslot more than before, at an index that was free; the tokens as before.  The calls end with
the addition of the keyslot and a session for its token that failed. -/
def LeavesKeyslot (who : Option ℕ) (device : String) (w w' : World)
    (calls : List (Answered Cmd Reply)) : Prop :=
  ∃ h h₁ i, h.KeyslotAdded who h₁ i ∧ w.Wrote device h h₁ w' ∧
    ∃ before vk pw token session,
      calls = before ++ ⟨Cmd.addByKey device (some vk) pw, (Except.ok i : Except String ℕ)⟩ :: session
        ∧ FailedSession device (Cmd.tokenJsonSet device (TokenInput.add
            (Json.set token "keyslots" (Json.arr [Json.str (toString i)])))) session

/-- One token less than before, one that listed the slot; the keyslots as before.  The calls end with
the removal of the token and a session for the destruction of the keyslot that failed. -/
def LeavesTokenRemoved (slot : ℤ) (device : String) (w w' : World)
    (calls : List (Answered Cmd Reply)) : Prop :=
  ∃ h j t, h.tokens j = some t ∧ t.Lists slot ∧ w.Wrote device h (h.removeToken j) w' ∧
    ∃ before session,
      calls = before ++ ⟨Cmd.tokenJsonSet device (TokenInput.remove j),
          (Except.ok j : Except String ℕ)⟩ :: session
        ∧ FailedSession device (Cmd.keyslotDestroy device (asU32 slot)) session

/-- What a request that reports `ok = false` has done, by the calls it made. -/
def FailureEffect (who : Option ℕ) (w w' : World) (calls : List (Answered Cmd Reply)) :
    SlotRequest → Prop
  | SlotRequest.enrollFido2 device _ _ _ _ _ => w.SameDisk w' ∨ LeavesKeyslot who device w w' calls
  | SlotRequest.enrollTpm2 device _ _ _ _ _ => w.SameDisk w' ∨ LeavesKeyslot who device w w' calls
  | SlotRequest.enrollRecoveryKey device _ _ _ => w.SameDisk w' ∨ LeavesKeyslot who device w w' calls
  | SlotRequest.enrollPassphrase _ _ _ _ _ => w.SameDisk w'
  | SlotRequest.wipeSlot device _ _ _ slot =>
      w.SameDisk w' ∨ LeavesTokenRemoved slot.val device w w' calls

/-- A body that did what it was asked to, or left the headers alone, or left something. -/
def Accounts (leaves : World → List (Answered Cmd Reply) → Prop) (w : World)
    (x : Except String Triple) (t : World × List (Answered Cmd Reply)) : Prop :=
  (∃ out, x = Except.ok out ∧ out.1 = true) ∨ w.SameDisk t.1 ∨ leaves t.1 t.2

lemma LeavesKeyslot.of_sameDisk {u v : World} {calls : List (Answered Cmd Reply)}
    (huv : u.SameDisk v) (h : LeavesKeyslot who device v w calls) :
    LeavesKeyslot who device u w calls := by
  obtain ⟨h, h₁, i, hadded, hw, hcalls⟩ := h
  exact ⟨h, h₁, i, hadded, hw.of_sameDisk huv, hcalls⟩

lemma LeavesTokenRemoved.of_sameDisk {slot : ℤ} {u v : World} {calls : List (Answered Cmd Reply)}
    (huv : u.SameDisk v) (h : LeavesTokenRemoved slot device v w calls) :
    LeavesTokenRemoved slot device u w calls := by
  obtain ⟨h, j, t, hj, hlists, hw, hcalls⟩ := h
  exact ⟨h, j, t, hj, hlists, hw.of_sameDisk huv, hcalls⟩

/-- **Between the keyslot and its token.** -/
lemma storeToken_accounts {prepared : Prepared} {h h₁ : Header} {i : ℕ} {u : World}
    {vk : VolumeKey} {pw : Bytes} {before : List (Answered Cmd Reply)}
    (hadded : h.KeyslotAdded who h₁ i) (hw : w.Wrote device h h₁ u) :
    (storeToken device prepared i).wp (Prog.recording (exec who)) (fun _ => True)
      (Accounts (LeavesKeyslot who device w) w)
      (u, before ++ [⟨Cmd.addByKey device (some vk) pw, (Except.ok i : Except String ℕ)⟩]) := by
  refine Prog.wp_bind (Prog.wp_mono (fun x t hx => ?_) (Prog.wp_and
    (Prog.wp_recording (setToken_spec (A := fun _ => True) (-1) _ u) _) (setToken_recorded (-1) _ _)))
  cases x with
  | ok j => exact Or.inl ⟨_, rfl, rfl⟩
  | error e =>
      obtain ⟨⟨hsame, -⟩, session, hcalls, hfailed⟩ := hx
      refine Or.inr (Or.inr ⟨h, h₁, i, hadded, hw.then_sameDisk hsame, before, vk, pw, _, session, ?_,
        hfailed⟩)
      rw [hcalls]
      simp

lemma enrollToken_accounts {prepare : Op Prepared} (hreads : prepare.AllCalls (Cmd.ReadsOn device))
    (unlockMethod unlockPin passphrase : String) (l : List (Answered Cmd Reply)) :
    (enrollToken device unlockMethod unlockPin passphrase prepare).wp (Prog.recording (exec who))
      (fun _ => True) (Accounts (LeavesKeyslot who device w) w) (w, l) := by
  refine Prog.wp_bind (Prog.wp_mono (fun x t hsame => ?_) (Prog.wp_recording (wp_readsOn hreads w) l))
  cases x with
  | error e => exact Or.inr (Or.inl hsame)
  | ok prepared =>
      refine Prog.wp_bind (Prog.wp_mono (fun y t₁ hsame₁ => ?_) (Prog.wp_recording
        (wp_readsOn (getVolumeKey_reads device unlockMethod passphrase unlockPin) t.1) t.2))
      cases y with
      | error e => exact Or.inr (Or.inl (hsame.trans hsame₁))
      | ok vk =>
          refine Prog.wp_bind (Prog.wp_mono (fun z t₂ hz => ?_) (Prog.wp_and
            (Prog.wp_recording (addKeyslotByVolumeKey_spec vk prepared.keyslotSecret
              prepared.minimalPbkdf t₁.1) t₁.2)
            (addKeyslot_recorded vk prepared.keyslotSecret prepared.minimalPbkdf t₁.2)))
          obtain ⟨houtcome, hrecorded⟩ := hz
          cases z with
          | error e => exact Or.inr (Or.inl ((hsame.trans hsame₁).trans houtcome.1))
          | ok i =>
              obtain ⟨o, h, h₁, -, hadd, hw⟩ := houtcome
              obtain ⟨before, hbefore⟩ := hrecorded i rfl
              obtain ⟨u, calls⟩ := t₂
              obtain rfl := hbefore
              exact storeToken_accounts (addByKey_ok hadd) (hw.of_sameDisk (hsame.trans hsame₁))

/-- **Between the token and its keyslot.** -/
lemma wipeDestroy_accounts {slot : ℤ} {u : World} {l : List (Answered Cmd Reply)}
    (hstart : w.SameDisk u ∨ ∃ h j t before, h.tokens j = some t ∧ t.Lists slot
      ∧ w.Wrote device h (h.removeToken j) u
      ∧ l = before ++ [⟨Cmd.tokenJsonSet device (TokenInput.remove j),
          (Except.ok j : Except String ℕ)⟩]) :
    ((destroyKeyslot device slot).bind fun _ => (Prog.ret (true, "", "") : Op Triple)).wp
      (Prog.recording (exec who)) (fun _ => True)
      (Accounts (LeavesTokenRemoved slot device w) w) (u, l) := by
  refine Prog.wp_bind (Prog.wp_mono (fun x t hx => ?_) (Prog.wp_and
    (Prog.wp_recording (destroyKeyslot_session slot u) l) (destroyKeyslot_recorded slot l)))
  cases x with
  | ok v => exact Or.inl ⟨_, rfl, rfl⟩
  | error e =>
      obtain ⟨⟨hsame', -⟩, hrecorded⟩ := hx
      rcases hstart with hsame | ⟨h, j, token, before, hj, hlists, hw, rfl⟩
      · exact Or.inr (Or.inl (hsame.trans hsame'))
      · obtain ⟨session, hcalls, hfailed⟩ := hrecorded e rfl
        refine Or.inr (Or.inr ⟨h, j, token, hj, hlists, hw.then_sameDisk hsame', before, session, ?_,
          hfailed⟩)
        rw [hcalls]
        simp

/-- The token that a wipe is to remove is one of the header, and lists the slot. -/
lemma found_token {slot : ℤ} {m : Option Json} (hm : MetadataOf (fun _ => True) device w m)
    (hfound : 0 ≤ tokenForKeyslotIn slot m) :
    ∃ (h : Header) (j : ℕ) (t : Token), tokenForKeyslotIn slot m = j ∧ j < tokensMax
      ∧ w.header device = some h ∧ h.tokens j = some t ∧ t.Lists slot := by
  cases m with
  | none => simp [tokenForKeyslotIn] at hfound
  | some metadata =>
      obtain ⟨h, hh, rfl⟩ := hm
      rcases tokenForKeyslotIn_dump h slot with ⟨hneg, -⟩ | ⟨j, t, hj, hlt, ht, hlists⟩
      · omega
      · exact ⟨h, j, t, hj, hlt, hh, ht, hlists⟩

lemma wipeRest_accounts {slot : ℤ} (l : List (Answered Cmd Reply)) :
    (wipeRest device slot).wp (Prog.recording (exec who)) (fun _ => True)
      (Accounts (LeavesTokenRemoved slot device w) w) (w, l) := by
  refine Prog.wp_bind (Prog.wp_mono (fun x t hx => ?_)
    (Prog.wp_recording (findTokenForKeyslot_spec (A := fun _ => True) slot w) l))
  obtain ⟨u, calls⟩ := t
  obtain ⟨hsame, m, rfl, hm⟩ := hx
  show ((if 0 ≤ tokenForKeyslotIn slot m then _ else _ : Op Unit).bind _).wp _ _ _ _
  by_cases hfound : 0 ≤ tokenForKeyslotIn slot m
  · rw [if_pos hfound]
    obtain ⟨h, j, t, hj, hlt, hh, ht, hlists⟩ := found_token hm hfound
    have hj32 : asU32 (j : ℤ) = j := asU32_natCast (lt_trans hlt (by decide))
    have hinput : tokenInput (j : ℤ) none = TokenInput.remove j := by rw [tokenInput, hj32]
    rw [hj]
    refine Prog.wp_bind (Prog.wp_bind (Prog.wp_mono (fun y t' hy => ?_) (Prog.wp_and
      (Prog.wp_recording (setToken_spec (A := fun _ => True) (j : ℤ) none u) calls)
      (setToken_recorded (j : ℤ) none calls))))
    obtain ⟨v, calls'⟩ := t'
    rw [hinput] at hy
    cases y with
    | error e => exact Or.inr (Or.inl (hsame.trans hy.1.1))
    | ok n =>
        obtain ⟨⟨o, h', h₁, -, hset, hw⟩, before, hcalls⟩ := hy
        have hw' := hw.of_sameDisk hsame
        obtain rfl : h' = h := Option.some.inj (hw'.stored.symm.trans hh)
        simp only [Header.jsonSet, if_pos hlt, Except.ok.injEq, Prod.mk.injEq] at hset
        obtain ⟨rfl, rfl⟩ := hset
        exact wipeDestroy_accounts (Or.inr ⟨h', j, t, before, ht, hlists, hw', hcalls⟩)
  · rw [if_neg hfound]
    exact wipeDestroy_accounts (Or.inl hsame)

lemma opWipeSlot_accounts (passphrase unlockMethod pin : String) (slot : I32)
    (l : List (Answered Cmd Reply)) :
    ((getVolumeKey device unlockMethod passphrase pin).bind fun _ =>
      (listKeyslots device).bind fun slots =>
        if slots.entries.length ≤ 1 ∧ slot.val ∈ slots.keys then Prog.ret lastKeyslot
        else wipeRest device slot.val).wp (Prog.recording (exec who)) (fun _ => True)
      (Accounts (LeavesTokenRemoved slot.val device w) w) (w, l) := by
  refine Prog.wp_bind (Prog.wp_mono (fun x t hsame => ?_)
    (Prog.wp_recording (wp_readsOn (getVolumeKey_reads device unlockMethod passphrase pin) w) l))
  cases x with
  | error e => exact Or.inr (Or.inl hsame)
  | ok vk =>
      refine Prog.wp_bind (Prog.wp_mono (fun y t' hy => ?_)
        (Prog.wp_recording (listKeyslots_spec (A := fun _ => True) t.1) t.2))
      obtain ⟨u, calls⟩ := t'
      obtain ⟨hsame', m, rfl, -⟩ := hy
      have hsame'' := hsame.trans hsame'
      show (if _ ∧ _ then _ else _ : Op Triple).wp _ _ _ _
      split_ifs
      · exact Or.inr (Or.inl hsame'')
      · refine Prog.wp_mono (fun z t'' hz => ?_) (wipeRest_accounts calls)
        exact hz.imp_right (Or.imp hsame''.trans fun hleft => hleft.of_sameDisk hsame'')

/-- What is left where `run_op` reports a failure. -/
lemma runOp_failed {body : Op Triple} {leaves : World → List (Answered Cmd Reply) → Prop}
    (hbody : body.wp (Prog.recording (exec who)) (fun _ => True) (Accounts leaves w) (w, []))
    (os : ℕ → Oracle) {out err : String}
    (hfail : ((runOp body).run (exec who) os w).1 = Except.ok (false, out, err)) :
    w.SameDisk ((runOp body).run (exec who) os w).2
      ∨ leaves ((runOp body).run (exec who) os w).2 ((runOp body).answers (exec who) os w) := by
  have haccounts := Prog.wp_recording_sound (Q := fun x v calls => Accounts leaves w x (v, calls))
    hbody os fun _ => trivial
  rw [runOp_run] at hfail ⊢
  rw [runOp_answers]
  rcases haccounts with ⟨t, ht, htrue⟩ | hleft
  · rw [ht] at hfail
    obtain rfl : t = (false, out, err) := Except.ok.inj hfail
    cases htrue
  · exact hleft

/-! ## The requests

The five requests on keyslots, by their bodies.
-/

/-- **A failed request changes nothing, or leaves exactly its first write, the second having failed.**
For every header, all arguments and every pattern of failing calls. -/
theorem failed_request_effect (r : SlotRequest) (who : Option ℕ) (os : ℕ → Oracle) (w : World)
    {out err : String}
    (hfail : (r.body.run (exec who) os w).1 = Except.ok (false, out, err)) :
    FailureEffect who w (r.body.run (exec who) os w).2 (r.body.answers (exec who) os w) r := by
  cases r with
  | enrollFido2 device passphrase pin fido2Device unlockMethod unlockPin =>
      refine runOp_failed (Prog.wp_bind (Prog.wp_mono (fun x t hsame => ?_) (Prog.wp_recording
        (wp_readsOn (reads_of_looks (alreadyEnrolled_looks device fido2Device)) w) []))) os hfail
      obtain ⟨u, calls⟩ := t
      cases x with
      | error e => exact Or.inr (Or.inl hsame)
      | ok enrolled =>
          cases enrolled with
          | true => exact Or.inr (Or.inl hsame)
          | false =>
              refine Prog.wp_mono (fun y t' hy => ?_) (enrollToken_accounts
                (reads_of_looks (prepareFido2_looks _ _)) unlockMethod unlockPin passphrase calls)
              exact hy.imp_right (Or.imp hsame.trans fun hleft => hleft.of_sameDisk hsame)
  | enrollTpm2 device passphrase pin pcrs unlockMethod unlockPin =>
      exact runOp_failed (enrollToken_accounts (reads_of_looks (prepareTpm2_looks _ _))
        unlockMethod unlockPin passphrase []) os hfail
  | enrollRecoveryKey device passphrase unlockMethod unlockPin =>
      exact runOp_failed (enrollToken_accounts (reads_of_looks prepareRecoveryKey_looks)
        unlockMethod unlockPin passphrase []) os hfail
  | enrollPassphrase device existing new unlockMethod unlockPin =>
      -- one write: what fails comes before it, or is it
      have hleaves := @runOp_failed who w _ (fun _ _ => False) (Prog.wp_recording
        (Q := fun x v => (∃ t : Triple, x = Except.ok t ∧ t.1 = true) ∨ w.SameDisk v ∨ False)
        ?_ []) os _ _ hfail
      · exact hleaves.resolve_right id
      exact wp_addAuthorised (fun vk o h h' i v _ _ => Or.inl ⟨_, rfl, rfl⟩)
        (fun e v hsame => Or.inr (Or.inl hsame))
  | wipeSlot device passphrase unlockMethod pin slot =>
      exact runOp_failed (opWipeSlot_accounts passphrase unlockMethod pin slot []) os hfail

/-- A volume with one passphrase keyslot. -/
def onePassphrase : World := passphraseVolume ["pw"] (by decide)

def stoppedRequest : SlotRequest := SlotRequest.enrollRecoveryKey "/dev/sdb1" "pw" "passphrase" ""

/-- The thirteenth call fails. -/
def stoppedInputs : ℕ → Oracle := fun n =>
  if n = 12 then { fault := some "Device or resource busy (os error 16)" } else Oracle.quiet

/-- A recovery-key enrollment whose token write is the call that fails. -/
def recoveryKeyStopped : Except String Triple × World :=
  stoppedRequest.body.run (exec none) stoppedInputs onePassphrase

/-- The enrollment reports failure, and the header has a second keyslot. -/
theorem recoveryKeyStopped_leaves_keyslot :
    recoveryKeyStopped.1 = Except.ok (false, "", "Operation failed")
      ∧ (onePassphrase.header "/dev/sdb1").map Header.slotIds = some [0]
      ∧ (recoveryKeyStopped.2.header "/dev/sdb1").map Header.slotIds = some [0, 1] := by
  refine ⟨?_, ?_, ?_⟩ <;> decide +kernel

/-- The theorem about failed requests covers that run: its token write is what is missing. -/
theorem recoveryKeyStopped_effect :
    recoveryKeyStopped.1 = Except.ok (false, "", "Operation failed")
      ∧ FailureEffect none onePassphrase recoveryKeyStopped.2
        (stoppedRequest.body.answers (exec none) stoppedInputs onePassphrase) stoppedRequest := by
  have hfail : recoveryKeyStopped.1 = Except.ok (false, "", "Operation failed") := by
    decide +kernel
  exact ⟨hfail, failed_request_effect _ none _ onePassphrase hfail⟩

end LuksEnroll
