import LuksEnroll.Concurrency

/-!
# Keyslot numbers and their reuse

A token enrollment adds its keyslot, remembers the number, and stamps it into a token in a later
session.  In between a wipe can destroy the keyslot and another enrollment can be given the same
number: the token is then bound to the other's secret (`recycled_slot_misbinds`).

What keeps tokens with their own keyslots: no keyslot is added at a number that another enrollment
is holding on to, and no keyslot is destroyed while a token written meanwhile lists it.

A token enrollment is cut in two at the keyslot: `enrollHead` adds it, `storeToken` writes the token.
The invariant says of every thread where it stands between the two (`Stands`), and which keyslot it
holds on to meanwhile; the condition of the theorem is about the commands that others issue in that
time.
-/

namespace LuksEnroll

open Library
open Prog (AllCalls Residual Last)

variable {n : ℕ} {reqs : Fin n → SlotRequest} {obj : ℕ}

/-! ## An enrollment in two halves

The half that adds the keyslot ends in the command that answers with its number; nothing before it
names one.
-/

/-- The first half of `enroll_token`: up to the keyslot it adds. -/
def enrollHead (device unlockMethod unlockPin passphrase : String) (prepare : Op Prepared) :
    Op (Prepared × ℕ) := do
  let prepared ← prepare
  let vk ← getVolumeKey device unlockMethod passphrase unlockPin
  let keyslot ← addKeyslotByVolumeKey device vk prepared.keyslotSecret prepared.minimalPbkdf
  return (prepared, keyslot)

/-- A token enrollment is a head, which adds the keyslot, and the storing of the token. -/
lemma enrollToken_eq (device unlockMethod unlockPin passphrase : String) (prepare : Op Prepared) :
    enrollToken device unlockMethod unlockPin passphrase prepare
      = (enrollHead device unlockMethod unlockPin passphrase prepare).bind fun x =>
        storeToken device x.1 x.2 := by
  simp only [enrollToken, enrollHead, Prog.bind_def, Prog.bind_assoc, Prog.pure_def, Prog.bind_ret]

namespace SlotRequest

/-- The first half of a token enrollment, `none` where it ends without a keyslot. -/
def head : SlotRequest → Op (Option (Prepared × ℕ))
  | enrollFido2 device passphrase pin fido2Device unlockMethod unlockPin =>
      (alreadyEnrolled device fido2Device).bind fun enrolled =>
        if enrolled then Prog.ret none
        else (enrollHead device unlockMethod unlockPin passphrase (prepareFido2 fido2Device pin)).bind
          fun x => Prog.ret (some x)
  | enrollTpm2 device passphrase pin pcrs unlockMethod unlockPin =>
      (enrollHead device unlockMethod unlockPin passphrase (prepareTpm2 pcrs pin)).bind
        fun x => Prog.ret (some x)
  | enrollRecoveryKey device passphrase unlockMethod unlockPin =>
      (enrollHead device unlockMethod unlockPin passphrase prepareRecoveryKey).bind
        fun x => Prog.ret (some x)
  | _ => Prog.ret none

/-- The second half. -/
def finish (r : SlotRequest) : Option (Prepared × ℕ) → Op Triple
  | none => Prog.ret (false, "", "This FIDO2 token is already enrolled on this volume")
  | some x => storeToken r.device x.1 x.2

lemma body_eq {r : SlotRequest} (hr : r.EnrollsToken) : r.body = runOp (r.head.bind r.finish) := by
  cases r with
  | enrollFido2 device passphrase pin fido2Device unlockMethod unlockPin =>
      simp only [body, opEnrollFido2, head, Prog.bind_def, Prog.bind_assoc]
      refine congrArg runOp (congrArg _ (funext fun enrolled => ?_))
      cases enrolled with
      | true => rfl
      | false =>
          simp only [Bool.false_eq_true, if_false, enrollToken_eq, Prog.bind_assoc]
          rfl
  | enrollTpm2 device passphrase pin pcrs unlockMethod unlockPin =>
      simp only [body, opEnrollTpm2, head, enrollToken_eq, Prog.bind_assoc]
      rfl
  | enrollRecoveryKey device passphrase unlockMethod unlockPin =>
      simp only [body, opEnrollRecoveryKey, head, enrollToken_eq, Prog.bind_assoc]
      rfl
  | enrollPassphrase device existing new unlockMethod unlockPin => exact hr.elim
  | wipeSlot device passphrase unlockMethod pin slot => exact hr.elim

end SlotRequest

/-- The keyslot that an answer reports as added. -/
def Cmd.added : (c : Cmd) → Reply c → Option ℕ
  | Cmd.addByKey _ _ _, Except.ok s => some s
  | _, _ => none

/-- A value that names a keyslot names the one just added. -/
def AddedLast (c : Cmd) (r : Reply c) (x : Option (Prepared × ℕ)) : Prop :=
  ∀ y, x = some y → c.added r = some y.2

lemma addKeyslotByVolumeKey_ne_ret {device : String} {vk : VolumeKey} {pw : Bytes}
    {minimalPbkdf : Bool} {α : Type} {f : ℕ → Op α} {x : α} :
    (addKeyslotByVolumeKey device vk pw minimalPbkdf).bind f ≠ Prog.ret x := by
  intro h
  cases h

lemma enrollHead_ne_ret {device unlockMethod unlockPin passphrase : String} {prepare : Op Prepared}
    {x : Prepared × ℕ} :
    enrollHead device unlockMethod unlockPin passphrase prepare ≠ Prog.ret x := by
  intro h
  obtain ⟨prepared, -, hprepared⟩ := Prog.bind_eq_ret h
  obtain ⟨vk, -, hvk⟩ := Prog.bind_eq_ret hprepared
  exact addKeyslotByVolumeKey_ne_ret hvk

/-- The last command of adding a keyslot names it. -/
lemma addKeyslotByVolumeKey_last (device : String) (vk : VolumeKey) (prepared : Prepared) :
    ((addKeyslotByVolumeKey device vk prepared.keyslotSecret prepared.minimalPbkdf).bind fun slot =>
      Prog.ret (some (prepared, slot))).Last AddedLast := by
  simp only [addKeyslotByVolumeKey, Prog.bind_def, Prog.bind_assoc]
  refine Last.bind (fun _ => Last.bind (fun _ => ?_) ?_) ?_
  · intro c k hres r x hx
    cases hres with
    | refl _ =>
        cases r with
        | ok slot =>
            obtain rfl := Prog.ret.inj hx
            intro y hy
            obtain rfl := Option.some.inj hy
            rfl
        | error e => cases hx
    | step r' hres => cases r' <;> cases hres
  · intro u x hx
    cases hx
  · intro loaded x hx
    obtain ⟨u, -, hu⟩ := Prog.bind_eq_ret hx
    cases hu

lemma enrollHead_last (device unlockMethod unlockPin passphrase : String) (prepare : Op Prepared) :
    ((enrollHead device unlockMethod unlockPin passphrase prepare).bind fun x =>
      Prog.ret (some x)).Last AddedLast := by
  simp only [enrollHead, Prog.bind_def, Prog.bind_assoc, Prog.pure_def, Prog.bind_ret]
  refine Last.bind (fun prepared => Last.bind (fun vk => ?_) ?_) ?_
  · exact addKeyslotByVolumeKey_last device vk prepared
  · intro vk x hx
    exact (addKeyslotByVolumeKey_ne_ret hx).elim
  · intro prepared x hx
    obtain ⟨vk, -, hvk⟩ := Prog.bind_eq_ret hx
    exact (addKeyslotByVolumeKey_ne_ret hvk).elim

/-- **The number an enrollment goes on with is the one its add was answered with.** -/
lemma SlotRequest.head_last (r : SlotRequest) : r.head.Last AddedLast := by
  cases r with
  | enrollFido2 device passphrase pin fido2Device unlockMethod unlockPin =>
      refine Last.bind (fun enrolled => ?_) ?_
      · cases enrolled with
        | true => exact Last.ret _ _
        | false => exact enrollHead_last _ _ _ _ _
      · intro enrolled x hx c r y hy
        subst hy
        cases enrolled with
        | true => cases hx
        | false =>
            obtain ⟨z, hz, -⟩ := Prog.bind_eq_ret hx
            exact (enrollHead_ne_ret hz).elim
  | enrollTpm2 device passphrase pin pcrs unlockMethod unlockPin => exact enrollHead_last _ _ _ _ _
  | enrollRecoveryKey device passphrase unlockMethod unlockPin => exact enrollHead_last _ _ _ _ _
  | enrollPassphrase device existing new unlockMethod unlockPin => exact Last.ret _ _
  | wipeSlot device passphrase unlockMethod pin slot => exact Last.ret _ _

/-- Before its keyslot is added an enrollment only reads. -/
lemma SlotRequest.head_issues (r : SlotRequest) :
    r.head.AllCalls (Cmd.Either (Cmd.ReadsOn r.device) fun c =>
      ∃ vk pw, c = Cmd.addByKey r.device vk pw) := by
  have hhead : ∀ {device unlockMethod unlockPin passphrase : String} {prepare : Op Prepared},
      prepare.AllCalls (Cmd.ReadsOn device) →
      ((enrollHead device unlockMethod unlockPin passphrase prepare).bind fun x =>
        (Prog.ret (some x) : Op _)).AllCalls (Cmd.Either (Cmd.ReadsOn device) fun c =>
          ∃ vk pw, c = Cmd.addByKey device vk pw) := by
    intro device unlockMethod unlockPin passphrase prepare hprepare
    refine AllCalls.bind ?_ fun x => trivial
    exact AllCalls.bind (allCalls_left hprepare) fun prepared =>
      AllCalls.bind (allCalls_left (getVolumeKey_reads _ _ _ _)) fun vk =>
        AllCalls.bind (either_reads (addKeyslotByVolumeKey_issues _ ⟨_, _, rfl⟩)) fun slot => trivial
  cases r with
  | enrollFido2 device passphrase pin fido2Device unlockMethod unlockPin =>
      have hlooks := reads_of_looks (alreadyEnrolled_looks device fido2Device)
      refine AllCalls.bind (allCalls_left hlooks) fun enrolled => ?_
      cases enrolled with
      | true => trivial
      | false => exact hhead (reads_of_looks (prepareFido2_looks _ _))
  | enrollTpm2 device passphrase pin pcrs unlockMethod unlockPin =>
      exact hhead (reads_of_looks (prepareTpm2_looks _ _))
  | enrollRecoveryKey device passphrase unlockMethod unlockPin =>
      exact hhead (reads_of_looks prepareRecoveryKey_looks)
  | enrollPassphrase device existing new unlockMethod unlockPin => trivial
  | wipeSlot device passphrase unlockMethod pin slot => trivial

/-! ## Tokens and their keyslots

A token of a request is bound while its keyslot is of the same request.
-/

/-- Every token written by a request lists one keyslot, which is there and which the same request
created. -/
def Header.TokensBound (h : Header) : Prop :=
  ∀ j t m, h.tokens j = some t → t.writer = some m →
    ∃ k ks, t.slots = [k] ∧ h.keyslots k = some ks ∧ ks.creator = some m

/-- What is in keyslot `s`, if anything, was created by request `m`. -/
def Header.OwnSlot (h : Header) (m s : ℕ) : Prop :=
  ∀ ks, h.keyslots s = some ks → ks.creator = some m

namespace Header.TokensBound

/-- A keyslot that is added has a number of its own, so tokens stay bound. -/
lemma keyslotAdded {who : Option ℕ} {h h' : Header} {s : ℕ} (hb : h.TokensBound)
    (hadd : h.KeyslotAdded who h' s) : h'.TokensBound := by
  obtain ⟨pw, -, hfree, hks, htok, -⟩ := hadd
  intro j t m ht hm
  rw [htok] at ht
  obtain ⟨k, ks, hslots, hk, hcreator⟩ := hb j t m ht hm
  have hne : k ≠ s := by
    rintro rfl
    simp [hfree] at hk
  exact ⟨k, ks, hslots, by rw [hks, Function.update_of_ne hne, hk], hcreator⟩

/-- A token that names the writer's own keyslot is bound. -/
lemma tokenAdded {m : ℕ} {h h' : Header} {s : ℕ} (hb : h.TokensBound) (hown : h.OwnSlot m s)
    (hadd : h.TokenAdded (some m) h' s) : h'.TokensBound := by
  obtain ⟨j, t, -, htok, hslots, hwriter, hks, -⟩ := hadd
  intro i t' m' ht' hm'
  rw [hks]
  by_cases hij : i = j
  · have htt : t = t' := by simpa [htok, hij] using ht'
    subst htt
    obtain rfl : m = m' := Option.some.inj (hwriter.symm.trans hm')
    -- libcryptsetup took the token, so the keyslot is there
    have hs := h'.token_slots i t ht' s (by simp [hslots])
    rw [hks, Option.isSome_iff_exists] at hs
    obtain ⟨ks, hs⟩ := hs
    exact ⟨s, ks, hslots, hs, hown ks hs⟩
  · rw [htok, Function.update_of_ne hij] at ht'
    exact hb i t' m' ht' hm'

lemma tokenRemoved {h : Header} (hb : h.TokensBound) (j : ℕ) : (h.removeToken j).TokensBound :=
  fun i t m ht hm => hb i t m (Header.removeToken_tokens ht) hm

/-- Destroying a keyslot that no token of a request lists unbinds none. -/
lemma destroyed {h h' : Header} {s : ℕ} (hb : h.TokensBound)
    (hunlisted : ∀ j t, h.tokens j = some t → t.writer.isSome → s ∉ t.slots)
    (hd : h.destroyKeyslot s = some h') : h'.TokensBound := by
  obtain ⟨-, hks, htok, -⟩ := Header.destroyKeyslot_spec hd
  intro j t m ht hm
  rw [htok, Option.map_eq_some_iff] at ht
  obtain ⟨t', ht', rfl⟩ := ht
  have hm' : t'.writer = some m := hm
  obtain ⟨k, ks, hslots, hk, hcreator⟩ := hb j t' m ht' hm'
  have hne : k ≠ s := by
    have := hunlisted j t' ht' (by simp [hm'])
    rintro rfl
    simp [hslots] at this
  refine ⟨k, ks, ?_, by rw [hks, Function.update_of_ne hne, hk], hcreator⟩
  simp [Token.drop, hslots, hne]

end Header.TokensBound

/-- A token that is stamped names one keyslot. -/
lemma jsonSet_stamped {h h' : Header} {m : ℕ} {o : Oracle} {prepared : Prepared} {s j : ℕ}
    (hset : h.jsonSet (some m) o (TokenInput.add (stamped prepared s)) = Except.ok (j, h')) :
    h.TokenAdded (some m) h' s := by
  cases ht : Token.ofJson (some m) (stamped prepared s) with
  | none => simp [Header.jsonSet, ht] at hset
  | some t =>
      obtain ⟨hslots, hwriter, -⟩ := ofJson_stamped_inv ht
      obtain ⟨hnone, htok, hks, hvk⟩ := jsonSet_add_ok ht hset
      exact ⟨j, t, hnone, htok, hslots, hwriter, hks, hvk⟩

/-! ## Where an enrollment stands

Before its keyslot, or between the keyslot and the token, with the number in its hand.
-/

/-- Request `j` has added keyslot `s` of the header in question and has not written its token. -/
def Holds (reqs : Fin n → SlotRequest) (obj : ℕ) (p : RequestPool n) (j : Fin n) (s : ℕ) : Prop :=
  (reqs j).EnrollsToken ∧ p.state.fs.node (reqs j).device = some obj
    ∧ (∃ c k, p.threads j = Prog.call c k)
    ∧ ∃ prepared, Residual (runOp (storeToken (reqs j).device prepared s)) (p.threads j)

/-- **The condition on a step**: no keyslot is added at a number that another enrollment holds, and
none is destroyed while a token written by a request lists it. -/
structure KeptApart (reqs : Fin n → SlotRequest) (obj : ℕ) (p : RequestPool n) (i : Fin n)
    (o : Oracle) : Prop where
  add : ∀ device vk pw k h s, p.threads i = Prog.call (Cmd.addByKey device vk pw) k →
    p.state.fs.node device = some obj → p.state.luks obj = some h → o.fault = none →
    freeIndex h.keyslots keyslotsMax o.pick = some s → ∀ j ≠ i, ¬ Holds reqs obj p j s
  destroy : ∀ device s k h, p.threads i = Prog.call (Cmd.keyslotDestroy device s) k →
    p.state.fs.node device = some obj → p.state.luks obj = some h → o.fault = none →
    ∀ j t, h.tokens j = some t → t.writer.isSome → s ∉ t.slots

/-- Before its keyslot, or past it, and then the keyslot it has in mind is its own or gone. -/
def Stands (r : SlotRequest) (m : ℕ) (here : Prop) (h : Header) (q : Op Triple) : Prop :=
  (∃ p, Residual r.head p ∧ (∀ x, p ≠ Prog.ret (some x)) ∧ q = runOp (p.bind r.finish))
    ∨ ∃ prepared s, Residual (runOp (storeToken r.device prepared s)) q
      ∧ (here → (∃ c k, q = Prog.call c k) → h.OwnSlot m s)

lemma SlotRequest.head_ne_ret (r : SlotRequest) (x : Prepared × ℕ) :
    r.head ≠ Prog.ret (some x) := by
  intro h
  cases r with
  | enrollFido2 device passphrase pin fido2Device unlockMethod unlockPin =>
      obtain ⟨enrolled, -, he⟩ := Prog.bind_eq_ret h
      cases enrolled with
      | true => cases he
      | false =>
          obtain ⟨y, hy, -⟩ := Prog.bind_eq_ret he
          exact enrollHead_ne_ret hy
  | enrollTpm2 device passphrase pin pcrs unlockMethod unlockPin =>
      obtain ⟨y, hy, -⟩ := Prog.bind_eq_ret h
      exact enrollHead_ne_ret hy
  | enrollRecoveryKey device passphrase unlockMethod unlockPin =>
      obtain ⟨y, hy, -⟩ := Prog.bind_eq_ret h
      exact enrollHead_ne_ret hy
  | enrollPassphrase device existing new unlockMethod unlockPin => cases h
  | wipeSlot device passphrase unlockMethod pin slot => cases h

/-- A request that has not begun stands nowhere. -/
lemma stands_body {r : SlotRequest} (hr : r.EnrollsToken) (m : ℕ) (here : Prop) (h : Header) :
    Stands r m here h r.body :=
  Or.inl ⟨r.head, Residual.refl _, r.head_ne_ret, r.body_eq hr⟩

/-- The answer to an add names a keyslot that is now there and the request's own. -/
lemma exec_added {m : ℕ} {device : String} {c : Cmd}
    (hc : c.Either (Cmd.ReadsOn device) fun c => ∃ vk pw, c = Cmd.addByKey device vk pw)
    {o : Oracle} {w : World} {s : ℕ} (hs : c.added (exec (some m) c o w).1 = some s)
    (hnode : w.fs.node device = some obj) {h' : Header}
    (hh' : (exec (some m) c o w).2.luks obj = some h') : h'.OwnSlot m s := by
  rcases hc with hread | ⟨vk, pw, rfl⟩
  · cases c <;> first | exact hread.elim | cases hs
  · rcases World.update_cases { w with now := w.now + o.elapsed } device o
      (fun h => h.addByKey (some m) o vk pw) with ⟨h, i, h₁, -, -, hadd, hreply, hwrote⟩ | ⟨e, hres, -⟩
    · have hi : i = s := by
        simpa [exec, answer, hreply, Cmd.added] using hs
      have hh₁ : h₁ = h' := by
        have := hwrote.luks obj hnode
        simpa [exec, answer, this] using hh'
      subst hi hh₁
      obtain ⟨pw', -, -, hks, -⟩ := addByKey_ok hadd
      intro ks hk
      rw [hks, Function.update_self] at hk
      obtain rfl := Option.some.inj hk
      rfl
    · simp [exec, answer, hres, Cmd.added] at hs

/-! ## One step

What one command of one request does to all of them.
-/

/-- The tail of an enrollment leaves the keyslots alone. -/
lemma storeToken_keyslots {device : String} {prepared : Prepared} {s m : ℕ} {c : Cmd}
    {k : Reply c → Op Triple}
    (hres : Residual (runOp (storeToken device prepared s)) (Prog.call c k)) {o : Oracle} {w : World}
    {h h' : Header} (hobj : w.luks obj = some h) (hh' : (exec (some m) c o w).2.luks obj = some h') :
    h'.keyslots = h.keyslots := by
  have hissue := (hres.allCalls (allCalls_runOp (storeToken_issues device prepared s))).1
  rcases hissue with hsession | rfl
  · have hsame := (@exec_readsOn device (some m) c hsession.looks.reads o w).luks
    rw [hsame, hobj] at hh'
    rw [Option.some.inj hh']
  · have htouch : (Cmd.tokenJsonSet device (TokenInput.add (stamped prepared s))).TouchesOn device :=
      Or.inr (Or.inr (Or.inl ⟨_, rfl⟩))
    obtain ⟨-, h₁, hh₁, hcase⟩ := @exec_header_cases (some m) device _ htouch o w obj h hobj
    obtain rfl : h₁ = h' := Option.some.inj (hh₁.symm.trans hh')
    rcases hcase with rfl | ⟨-, -, ⟨vk, pw, i, hc, -⟩ | ⟨input, j, -, hset⟩ | ⟨slot, hc, -⟩⟩
    · rfl
    · cases hc
    · exact (jsonSet_keeps hset).1
    · cases hc

lemma stands_move {r : SlotRequest} {m : ℕ} {h h' : Header} {c : Cmd} {k : Reply c → Op Triple}
    {o : Oracle} {w : World} (hs : Stands r m (w.fs.node r.device = some obj) h (Prog.call c k))
    (hobj : w.luks obj = some h) (hh' : (exec (some m) c o w).2.luks obj = some h') :
    Stands r m (w.fs.node r.device = some obj) h' (k (exec (some m) c o w).1) := by
  rcases hs with ⟨p, hres, hne, hq⟩ | ⟨prepared, s, hres, hown⟩
  · cases p with
    | ret x =>
        cases x with
        | none => cases hq
        | some y => exact (hne y rfl).elim
    | fail e => cases hq
    | call c' k' =>
        cases hq
        have hissue := (hres.allCalls r.head_issues).1
        by_cases hend : ∃ x, k' (exec (some m) c o w).1 = Prog.ret (some x)
        · -- the add was answered: its second half begins
          obtain ⟨x, hx⟩ := hend
          refine Or.inr ⟨x.1, x.2, ?_, fun hnode _ => ?_⟩
          · show Residual _ (runOp ((k' (exec (some m) c o w).1).bind r.finish))
            rw [hx]
            exact Residual.refl _
          · exact exec_added hissue (r.head_last c k' hres _ _ hx x rfl) hnode hh'
        · exact Or.inl ⟨_, hres.answer _, fun x hx => hend ⟨x, hx⟩, rfl⟩
  · refine Or.inr ⟨prepared, s, hres.answer _, fun hnode _ ks hks => ?_⟩
    rw [storeToken_keyslots hres hobj hh'] at hks
    exact hown hnode ⟨c, k, rfl⟩ ks hks

/-- A token that a request is about to set: a wipe removes one, an enrollment adds its own. -/
lemma pending_token {r : SlotRequest} {m : ℕ} {h : Header} {here : Prop} {device : String}
    {input : TokenInput} {k : Reply (Cmd.tokenJsonSet device input) → Op Triple}
    (hres : Residual r.body (Prog.call (Cmd.tokenJsonSet device input) k))
    (hs : r.EnrollsToken → Stands r m here h (Prog.call (Cmd.tokenJsonSet device input) k)) :
    (∃ id, input = TokenInput.remove id)
      ∨ ∃ prepared s, input = TokenInput.add (stamped prepared s) ∧ (here → h.OwnSlot m s) := by
  have hissue := (hres.allCalls r.body_issues).1.resolve_left fun hread => hread
  have henroll : r.EnrollsToken → ∃ prepared s, input = TokenInput.add (stamped prepared s)
      ∧ (here → h.OwnSlot m s) := by
    intro hr
    rcases hs hr with ⟨p, hp, hne, hq⟩ | ⟨prepared, s, hp, hown⟩
    · cases p with
      | ret x =>
          cases x with
          | none => cases hq
          | some y => exact (hne y rfl).elim
      | fail e => cases hq
      | call c' k' =>
          cases hq
          rcases (hp.allCalls r.head_issues).1 with hread | ⟨vk, pw, hc⟩
          · exact hread.elim
          · cases hc
    · rcases (hp.allCalls (allCalls_runOp (storeToken_issues r.device prepared s))).1 with hread | hc
      · exact hread.elim
      · obtain ⟨-, rfl⟩ := Cmd.tokenJsonSet.inj hc
        exact ⟨prepared, s, rfl, fun hhere => hown hhere ⟨_, _, rfl⟩⟩
  cases r with
  | wipeSlot device' passphrase unlockMethod pin slot =>
      rcases hissue with ⟨id, hc⟩ | hc
      · exact Or.inl ⟨id, (Cmd.tokenJsonSet.inj hc).2⟩
      · cases hc
  | enrollPassphrase device' existing new unlockMethod unlockPin =>
      obtain ⟨vk, pw, hc⟩ := hissue
      cases hc
  | _ => exact Or.inr (henroll trivial)

/-- Every thread is what is left of its request, every token is bound to its own keyslot, and every
enrollment stands where its own keyslot, if it has one, is its own. -/
structure SlotInv (reqs : Fin n → SlotRequest) (obj : ℕ) (p : RequestPool n) : Prop where
  started : Started reqs p
  bound : ∃ h, p.state.luks obj = some h ∧ h.TokensBound ∧ ∀ i, (reqs i).EnrollsToken →
    Stands (reqs i) i.val (p.state.fs.node (reqs i).device = some obj) h (p.threads i)

/-- What the keyslot tables before and after a step share, for an enrollment that does not move. -/
lemma ownSlot_step {p : RequestPool n} {i : Fin n} {o : Oracle} (hadm : KeptApart reqs obj p i o)
    {c : Cmd} {f : Reply c → Op Triple} (hi : p.threads i = Prog.call c f)
    (htouch : c.TouchesOn (reqs i).device) {h h' : Header} (hobj : p.state.luks obj = some h)
    (hh' : (exec (some i.val) c o p.state).2.luks obj = some h') {j : Fin n} (hj : j ≠ i) {s : ℕ}
    (hholds : Holds reqs obj p j s) (hown : h.OwnSlot j.val s) : h'.OwnSlot j.val s := by
  obtain ⟨-, h₁, hh₁, hcase⟩ := @exec_header_cases (some i.val) _ c htouch o p.state obj h hobj
  obtain rfl : h₁ = h' := Option.some.inj (hh₁.symm.trans hh')
  intro ks hks
  rcases hcase with rfl | ⟨hnode, hfault, hwrite⟩
  · exact hown ks hks
  rcases hwrite with ⟨vk, pw, s', rfl, hadd⟩ | ⟨input, t, rfl, hset⟩ | ⟨s', rfl, hd⟩
  · have hne : s ≠ s' := by
      rintro rfl
      exact hadm.add _ vk pw f h s hi hnode hobj hfault
        (Header.addKeyslot_spec (addByKey_addKeyslot hadd)).1 j hj hholds
    obtain ⟨pw', -, -, hks', -⟩ := addByKey_ok hadd
    rw [hks', Function.update_of_ne hne] at hks
    exact hown ks hks
  · rw [(jsonSet_keeps hset).1] at hks
    exact hown ks hks
  · obtain ⟨-, hks', -⟩ := Header.destroyKeyslot_spec hd
    have hne : s ≠ s' := by
      rintro rfl
      simp [hks'] at hks
    rw [hks', Function.update_of_ne hne] at hks
    exact hown ks hks

lemma tokensBound_step {p : RequestPool n} {i : Fin n} {o : Oracle} (hstarted : Started reqs p)
    (hadm : KeptApart reqs obj p i o) {c : Cmd} {f : Reply c → Op Triple}
    (hi : p.threads i = Prog.call c f) {h h' : Header} (hobj : p.state.luks obj = some h)
    (hh' : (exec (some i.val) c o p.state).2.luks obj = some h') (hb : h.TokensBound)
    (hstands : (reqs i).EnrollsToken →
      Stands (reqs i) i.val (p.state.fs.node (reqs i).device = some obj) h (p.threads i)) :
    h'.TokensBound := by
  have hres := hstarted i
  rw [hi] at hres hstands
  have htouch := (hres.allCalls (reqs i).body_touches).1
  obtain ⟨-, h₁, hh₁, hcase⟩ := @exec_header_cases (some i.val) _ c htouch o p.state obj h hobj
  obtain rfl : h₁ = h' := Option.some.inj (hh₁.symm.trans hh')
  rcases hcase with rfl | ⟨hnode, hfault, hwrite⟩
  · exact hb
  rcases hwrite with ⟨vk, pw, s, -, hadd⟩ | ⟨input, t, rfl, hset⟩ | ⟨s, rfl, hd⟩
  · exact hb.keyslotAdded (addByKey_ok hadd)
  · rcases pending_token hres hstands with ⟨id, rfl⟩ | ⟨prepared, s, rfl, hown⟩
    · simp only [Header.jsonSet] at hset
      split_ifs at hset
      obtain ⟨-, rfl⟩ := Prod.mk.inj (Except.ok.inj hset)
      exact hb.tokenRemoved id
    · exact hb.tokenAdded (hown hnode) (jsonSet_stamped hset)
  · exact hb.destroyed (hadm.destroy _ s f h hi hnode hobj hfault) hd

lemma slotInv_step {p : RequestPool n} (hp : SlotInv reqs obj p) {i : Fin n} {o : Oracle}
    (hadm : KeptApart reqs obj p i o) : SlotInv reqs obj (p.step (handlers n) i o) := by
  refine ⟨started_step hp.started i o, ?_⟩
  obtain ⟨h, hobj, hb, hstands⟩ := hp.bound
  rcases Pool.step_cases (handlers n) p i o with hstep | ⟨c, f, hi, hthreads, hstate⟩
  · rw [hstep]
    exact ⟨h, hobj, hb, hstands⟩
  have htouch : c.TouchesOn (reqs i).device := by
    have hres := hp.started i
    rw [hi] at hres
    exact (hres.allCalls (reqs i).body_touches).1
  obtain ⟨hfs, h', hh', -⟩ := @exec_header_cases (some i.val) _ c htouch o p.state obj h hobj
  have hb' := tokensBound_step hp.started hadm hi hobj hh' hb (hstands i)
  rw [hthreads, hstate]
  refine ⟨h', hh', hb', fun j hr => ?_⟩
  show Stands _ _ ((exec (some i.val) c o p.state).2.fs.node _ = _) _ _
  rw [hfs]
  by_cases hj : j = i
  · subst hj
    rw [Function.update_self]
    exact stands_move (hi ▸ hstands j hr) hobj hh'
  · rw [Function.update_of_ne hj]
    refine (hstands j hr).imp_right ?_
    rintro ⟨prepared, s, hres, hown⟩
    refine ⟨prepared, s, hres, fun hnode hcall => ?_⟩
    exact ownSlot_step hadm hi htouch hobj hh' hj ⟨hr, hnode, hcall, prepared, hres⟩
      (hown hnode hcall)

/-! ## Every schedule

The requests as threads, one command at a time.
-/

/-- **Tokens stay with their own keyslots.**  For every header, any number of enrollments and wipes
and every schedule whose steps keep their keyslots apart, in the state reached every token written
by one of the requests lists one keyslot, created by that same request. -/
theorem tokens_stay_bound (reqs : Fin n → SlotRequest) {w : World} {obj : ℕ} {h : Header}
    (hobj : w.luks obj = some h) (hold : ∀ j t, h.tokens j = some t → t.writer = none)
    (sched : List (Fin n × Oracle))
    (hsched : (Requests reqs w).Along (handlers n) (KeptApart reqs obj) sched) :
    ∃ h', ((Requests reqs w).run (handlers n) sched).state.luks obj = some h'
      ∧ h'.TokensBound := by
  have hstart : SlotInv reqs obj (Requests reqs w) := by
    refine ⟨started_requests w, h, hobj, ?_, fun i hr => stands_body hr i.val _ h⟩
    intro j t m ht hm
    simp [hold j t ht] at hm
  have hinv := Pool.run_invariant (handlers n) (I := SlotInv reqs obj)
    (fun p i o hp hadm => slotInv_step hp hadm) hstart hsched
  obtain ⟨h', hh', hb, -⟩ := hinv.bound
  exact ⟨h', hh', hb⟩

/-! ## A recycled number

The keyslot is wiped and its number given to another enrollment, before the token of the first is
written.
-/

/-- Two recovery-key enrollments and a wipe of keyslot 1. -/
def enrollWipeEnroll : Fin 3 → SlotRequest
  | 0 => SlotRequest.enrollRecoveryKey "/dev/sdb1" "pw" "passphrase" ""
  | 1 => SlotRequest.wipeSlot "/dev/sdb1" "pw" "passphrase" "" ⟨1, i32_one⟩
  | 2 => SlotRequest.enrollRecoveryKey "/dev/sdb1" "pw" "passphrase" ""

/-- The first enrollment adds keyslot 1, the wipe destroys it, the second enrollment is given the
number again with a key of its own, and the first writes its token. -/
def recycledSlot : List (Fin 3 × Oracle) :=
  List.replicate 10 (0, Oracle.quiet) ++ List.replicate 10 (1, Oracle.quiet)
    ++ List.replicate 6 (2, { bytes := fun _ => 1 }) ++ List.replicate 3 (0, Oracle.quiet)

/-- **That token is bound to the other enrollment's keyslot**, which does not hold the recovery key
that the first one reports. -/
theorem recycled_slot_misbinds :
    ∃ h t ks, ((Requests enrollWipeEnroll (passphraseVolume ["pw"] (by decide))).run (handlers 3)
        recycledSlot).state.luks 0 = some h
      ∧ h.tokens 0 = some t ∧ t.writer = some 0 ∧ t.slots = [1]
      ∧ h.keyslots 1 = some ks ∧ ks.creator = some 2
      ∧ ks.secret ≠ asBytes (makeRecoveryKey (Oracle.quiet.random 32)) ∧ ¬ h.TokensBound := by
  have hrun : (((Requests enrollWipeEnroll (passphraseVolume ["pw"] (by decide))).run (handlers 3)
      recycledSlot).state.luks 0).map (fun h => ((h.tokens 0).map fun t => (t.writer, t.slots),
        (h.keyslots 1).map fun ks => (ks.creator,
          decide (ks.secret = asBytes (makeRecoveryKey (Oracle.quiet.random 32))))))
      = some (some (some 0, [1]), some (some 2, false)) := by decide +kernel
  simp only [Option.map_eq_some_iff, Prod.mk.injEq, decide_eq_false_iff_not] at hrun
  obtain ⟨h, hh, ⟨t, ht, hwriter, hslots⟩, ks, hks, hcreator, hsecret⟩ := hrun
  refine ⟨h, t, ks, hh, ht, hwriter, hslots, hks, hcreator, hsecret, fun hb => ?_⟩
  obtain ⟨k, ks', hslots', hks', hcreator'⟩ := hb 0 t 0 ht hwriter
  obtain rfl : k = 1 := by simpa [hslots] using hslots'.symm
  obtain rfl : ks' = ks := Option.some.inj (hks'.symm.trans hks)
  simp [hcreator] at hcreator'

/-- Steps of the wipes are taken while no token is there. -/
def wipesUntokened (enroller : Fin n) (obj : ℕ) : RequestPool n → List (Fin n × Oracle) → Bool
  | _, [] => true
  | p, x :: sched =>
      (decide (x.1 = enroller) || ((p.state.luks obj).map Header.tokenIds).all List.isEmpty)
        && wipesUntokened enroller obj (p.step (handlers n) x.1 x.2) sched

/-- One enrollment among wipes that are done before its token is written. -/
lemma keptApart_of_untokened {enroller : Fin n} (hen : (reqs enroller).EnrollsToken)
    (hothers : ∀ j ≠ enroller, ∃ device passphrase unlockMethod pin slot,
      reqs j = SlotRequest.wipeSlot device passphrase unlockMethod pin slot)
    {p : RequestPool n} (hp : Started reqs p) {sched : List (Fin n × Oracle)}
    (hsched : wipesUntokened enroller obj p sched = true) :
    p.Along (handlers n) (KeptApart reqs obj) sched := by
  induction sched generalizing p with
  | nil => trivial
  | cons x sched ih =>
      simp only [wipesUntokened, Bool.and_eq_true, Bool.or_eq_true, decide_eq_true_eq] at hsched
      refine ⟨⟨?_, ?_⟩, ih (started_step hp x.1 x.2) hsched.2⟩
      · rintro device vk pw k h s hx - - - - j hj ⟨hj', -⟩
        -- the enrollment holds, so a wipe would be adding
        have hjen : j = enroller := by
          by_contra hne
          obtain ⟨_, _, _, _, _, hr⟩ := hothers j hne
          rw [hr] at hj'
          exact hj'
        obtain ⟨_, _, _, _, _, hr⟩ := hothers x.1 fun hx => hj (hjen.trans hx.symm)
        have hres := hp x.1
        rw [hx, hr] at hres
        rcases (hres.allCalls (SlotRequest.body_issues _)).1 with hread | ⟨id, hc⟩ | hc
        · exact hread
        · cases hc
        · cases hc
      · intro device s k h hx hnode hobj hfault j t ht
        rcases hsched.1 with hx' | hempty
        · -- an enrollment destroys nothing
          have hres := hp x.1
          rw [hx, hx'] at hres
          have hissue := (hres.allCalls (SlotRequest.body_issues _)).1
          generalize reqs enroller = r at hen hissue
          cases r <;> first | exact hen.elim | skip
          all_goals
            rcases hissue with hread | ⟨vk, pw, hc⟩ | ⟨json, hc⟩
            · exact hread.elim
            · cases hc
            · cases hc
        · have hj : j ∈ h.tokenIds := Header.mem_tokenIds.mpr (by simp [ht])
          simp only [hobj, Option.map_some, Option.all_some, List.isEmpty_iff] at hempty
          simp [hempty] at hj

/-- The first enrollment and the wipe, on a volume whose keyslot 1 was there before. -/
def enrollBesideWipe : Fin 2 → SlotRequest := fun i => enrollWipeEnroll i.castSucc

/-- The wipe is done before the enrollment writes its token: the token gets its own keyslot. -/
theorem enroll_beside_wipe_bound :
    ∃ h', ((Requests enrollBesideWipe (passphraseVolume ["pw", "pw2"] (by decide))).run (handlers 2)
        (List.replicate 10 (0, Oracle.quiet) ++ List.replicate 10 (1, Oracle.quiet)
          ++ List.replicate 3 (0, Oracle.quiet))).state.luks 0 = some h' ∧ h'.TokensBound := by
  refine tokens_stay_bound _ rfl (fun j t ht => by cases ht) _ ?_
  refine @keptApart_of_untokened 2 enrollBesideWipe 0 0 trivial ?_ _ (started_requests _) _ ?_
  · intro j hj
    obtain rfl : j = 1 := by omega
    exact ⟨_, _, _, _, _, rfl⟩
  · decide +kernel

end LuksEnroll
