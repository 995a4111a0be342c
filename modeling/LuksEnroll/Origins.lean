import LuksEnroll.Concurrency
import LuksEnroll.Library.Journal

/-!
# Where a keyslot's secret comes from

An enrollment gets a secret from somewhere and adds a keyslot for it.  Where the secret comes from shows
in the answers that the request is given: `SlotRequest.Got` reads it off them, for each of the four kinds
of enrollment.

`SlotRequest.body_tells` says of the request alone, whatever it is answered, that it adds no secret but
the one it got.  What this comes to on a header is `SlotRequest.run_sourced`: after one request every
keyslot is one that was there before, or one that this request has made for the secret it got.  The same
for any schedule of concurrent requests is `sourced_after`, in its own module.
-/

namespace LuksEnroll

open Library
open Prog (AllCalls Tells)

variable {who : Option ℕ} {device : String} {w : World}

/-! ## What a request gets

By the answers to its own calls: the secret of an enrollment is there before its keyslot is added.
-/

/-- **The secret that a request got**, by the answers it was given, in the form that goes into the
keyslot: what the authenticator answered it, or the random bytes that the kernel did, or the passphrase
that it came with. -/
def SlotRequest.Got (past : List (Answered Cmd Reply)) (secret : Bytes) : SlotRequest → Prop
  | enrollFido2 _ _ pin fido2Device _ _ => ∃ enrollment,
      ⟨Cmd.fido2Enroll fido2Device (optionalPin pin), Except.ok enrollment⟩ ∈ past
        ∧ secret = asBytes (Base64.encode enrollment.hmacSecret)
  | enrollTpm2 _ _ _ _ _ _ => ∃ raw, ⟨Cmd.getrandom 32, Except.ok raw⟩ ∈ past
      ∧ secret = asBytes (Base64.encode raw)
  | enrollRecoveryKey _ _ _ _ => ∃ raw, ⟨Cmd.osRandom 32, raw⟩ ∈ past
      ∧ secret = asBytes (makeRecoveryKey raw)
  | enrollPassphrase _ _ newPassphrase _ _ => secret = asBytes newPassphrase
  | wipeSlot _ _ _ _ _ => False

lemma SlotRequest.Got.mono {r : SlotRequest} {past past' : List (Answered Cmd Reply)} {secret : Bytes}
    (h : r.Got past secret) (hpast : past ⊆ past') : r.Got past' secret := by
  cases r with
  | enrollFido2 device passphrase pin fido2Device unlockMethod unlockPin =>
      obtain ⟨enrollment, hanswer, rfl⟩ := h
      exact ⟨enrollment, hpast hanswer, rfl⟩
  | enrollTpm2 device passphrase pin pcrs unlockMethod unlockPin =>
      obtain ⟨raw, hanswer, rfl⟩ := h
      exact ⟨raw, hpast hanswer, rfl⟩
  | enrollRecoveryKey device passphrase unlockMethod unlockPin =>
      obtain ⟨raw, hanswer, rfl⟩ := h
      exact ⟨raw, hpast hanswer, rfl⟩
  | enrollPassphrase device existing new unlockMethod unlockPin => exact h
  | wipeSlot device passphrase unlockMethod pin slot => exact h

/-- What a request may issue after these answers: it adds no secret but one it got. -/
def GotRule (r : SlotRequest) (c : Cmd) (past : List (Answered Cmd Reply)) : Prop :=
  ∀ d vk pw, c = Cmd.addByKey d vk pw → r.Got past pw

/-- A command that adds no secret but this one. -/
def Cmd.AddsOnly (secret : Bytes) (c : Cmd) : Prop := ∀ d vk pw, c = Cmd.addByKey d vk pw → pw = secret

section Requests

variable {r : SlotRequest} {past : List (Answered Cmd Reply)} {α : Type}

lemma Cmd.ReadsOn.gotRule {c : Cmd} (hc : c.ReadsOn device) : GotRule r c past := by
  rintro d vk pw rfl
  exact hc.elim

lemma Cmd.ReadsOn.addsOnly {c : Cmd} (hc : c.ReadsOn device) (secret : Bytes) : c.AddsOnly secret := by
  rintro d vk pw rfl
  exact hc.elim

/-- The authorised tail of an enrollment adds the secret that was prepared. -/
lemma enrollRest_addsOnly (secret : Bytes) (unlockMethod unlockPin passphrase : String)
    (minimalPbkdf : Bool) {f : ℕ → Op Triple} (hf : ∀ i, (f i).AllCalls (Cmd.AddsOnly secret)) :
    ((getVolumeKey device unlockMethod passphrase unlockPin).bind fun vk =>
      (addKeyslotByVolumeKey device vk secret minimalPbkdf).bind f).AllCalls
        (Cmd.AddsOnly secret) := by
  refine AllCalls.bind ((getVolumeKey_reads _ _ _ _).mono fun c hc => hc.addsOnly _) fun vk => ?_
  refine AllCalls.bind ((addKeyslotByVolumeKey_issues (Q := Cmd.AddsOnly secret) minimalPbkdf ?_).mono
    fun c hc => hc.elim (fun hlook => hlook.reads.addsOnly _) id) hf
  intro d vk' pw heq
  obtain ⟨-, -, rfl⟩ := Cmd.addByKey.inj heq
  rfl

lemma storeToken_addsOnly (secret : Bytes) (device : String) (prepared : Prepared) (i : ℕ) :
    (storeToken device prepared i).AllCalls (Cmd.AddsOnly secret) := by
  refine (storeToken_issues device prepared i).mono fun c hc => ?_
  rcases hc with hsession | rfl
  · exact hsession.looks.reads.addsOnly _
  · intro d vk pw heq
    cases heq

/-- Before a request has its secret, it only looks. -/
lemma gotRule_before {p : Op α} (hp : p.AllCalls (Cmd.ReadsOn device)) :
    p.Tells (GotRule r) (fun _ past' => past <:+ past') past :=
  Tells.of_allCalls (fun _ _ hc => hc.gotRule) hp past

/-- When it has its secret, the rest of it adds no other. -/
lemma gotRule_rest {secret : Bytes} (hgot : r.Got past secret) {p : Op α}
    (hp : p.AllCalls (Cmd.AddsOnly secret)) : p.Tells (GotRule r) (fun _ _ => True) past := by
  refine Tells.mono (fun _ _ _ => trivial) (Tells.of_allCalls_since (fun c past' hpast hc => ?_) hp)
  intro d vk pw heq
  rw [hc d vk pw heq]
  exact hgot.mono hpast.subset

/-- **A request adds no secret but the one it got**, whatever it is answered. -/
lemma SlotRequest.body_tells (r : SlotRequest) :
    r.body.Tells (GotRule r) (fun _ _ => True) [] := by
  cases r with
  | enrollFido2 device passphrase pin fido2Device unlockMethod unlockPin =>
      refine tells_runOp (Tells.bind (Tells.mono (fun x past _ => ?_)
        (gotRule_before (reads_of_looks (alreadyEnrolled_looks device fido2Device)))))
      cases x with
      | error e => trivial
      | ok enrolled =>
          cases enrolled with
          | true => trivial
          | false =>
              -- the secret is what the authenticator answers
              refine ⟨@Cmd.ReadsOn.gotRule device _ _ (Cmd.fido2Enroll _ _) trivial, fun answer => ?_⟩
              cases answer with
              | error e => trivial
              | ok enrollment =>
                  refine gotRule_rest ?_ (enrollRest_addsOnly _ _ _ _ _ fun i =>
                    storeToken_addsOnly _ _ _ i)
                  exact ⟨enrollment, List.mem_cons_self .., rfl⟩
  | enrollTpm2 device passphrase pin pcrs unlockMethod unlockPin =>
      -- the secret is what `getrandom` answers
      refine tells_runOp ⟨@Cmd.ReadsOn.gotRule device _ _ (Cmd.getrandom 32) trivial, fun answer => ?_⟩
      cases answer with
      | error e => trivial
      | ok secret =>
          refine ⟨@Cmd.ReadsOn.gotRule device _ _ (Cmd.tpm2Seal _ _ _) trivial, fun sealing => ?_⟩
          cases sealing with
          | error e => trivial
          | ok result =>
              show Tells _ _ (((Prog.ofExcept (pcrList pcrs)).bind _).bind _) _
              cases pcrList pcrs with
              | error e => trivial
              | ok list =>
                  refine gotRule_rest ?_ (enrollRest_addsOnly _ _ _ _ _ fun i =>
                    storeToken_addsOnly _ _ _ i)
                  exact ⟨secret, List.mem_cons_of_mem _ (List.mem_cons_self ..), rfl⟩
  | enrollRecoveryKey device passphrase unlockMethod unlockPin =>
      refine tells_runOp ⟨@Cmd.ReadsOn.gotRule device _ _ (Cmd.osRandom 32) trivial, fun raw => ?_⟩
      refine gotRule_rest ?_ (enrollRest_addsOnly _ _ _ _ _ fun i => storeToken_addsOnly _ _ _ i)
      exact ⟨raw, List.mem_cons_self .., rfl⟩
  | enrollPassphrase device existing new unlockMethod unlockPin =>
      refine tells_runOp (gotRule_rest ?_ (enrollRest_addsOnly (asBytes new) _ _ _ _ fun _ => trivial))
      exact rfl
  | wipeSlot device passphrase unlockMethod pin slot =>
      refine Tells.mono (fun _ _ _ => trivial) (Tells.of_allCalls (fun c _ hc => ?_)
        (opWipeSlot_issues _ _ _ _ _) [])
      rcases hc with hread | ⟨id, rfl⟩ | rfl
      · exact hread.gotRule
      · intro d vk pw heq
        cases heq
      · intro d vk pw heq
        cases heq

end Requests

/-! ## One command

A keyslot that was not there before was added by this command.
-/

/-- Where the key is added, the answer says so. -/
lemma addByKey_reply {o : Oracle} {vk : Option VolumeKey} {pw : Bytes} {h h' : Header} {obj k : ℕ}
    (hnode : w.fs.node device = some obj) (hobj : w.luks obj = some h) (hfault : o.fault = none)
    (hadd : h.addByKey who o vk pw = Except.ok (k, h')) :
    (exec who (Cmd.addByKey device vk pw) o w).1 = Except.ok k := by
  simp [exec, answer, World.update, hfault, hnode, hobj, hadd]

/-- **A keyslot after one command** was there before it, or the command has added it. -/
lemma exec_keyslots {obj : ℕ} {h : Header} {c : Cmd} (hc : c.TouchesOn device) (o : Oracle)
    (hobj : w.luks obj = some h) :
    (exec who c o w).2.fs = w.fs ∧ ∃ h', (exec who c o w).2.luks obj = some h' ∧
      ∀ k ks, h'.keyslots k = some ks → h.keyslots k = some ks
        ∨ ∃ vk pw, c = Cmd.addByKey device vk pw ∧ ks = Header.newKeyslot who pw
          ∧ w.fs.node device = some obj
          ∧ (exec who (Cmd.addByKey device vk pw) o w).1 = Except.ok k := by
  obtain ⟨hfs, h', hh', hcase⟩ := @exec_header_cases who _ c hc o w obj h hobj
  refine ⟨hfs, h', hh', fun k ks hks => ?_⟩
  rcases hcase with rfl | ⟨hnode, hfault, ⟨vk, pw, a, rfl, hadd⟩ | ⟨input, a, -, hset⟩ | ⟨s, -, hd⟩⟩
  · exact Or.inl hks
  · obtain ⟨-, hks', -, -⟩ := Header.addKeyslot_spec (addByKey_addKeyslot hadd)
    rw [hks'] at hks
    by_cases hka : k = a
    · rw [hka, Function.update_self, Option.some.injEq] at hks
      exact Or.inr ⟨vk, pw, rfl, hks.symm, hnode, hka ▸ addByKey_reply hnode hobj hfault hadd⟩
    · rw [Function.update_of_ne hka] at hks
      exact Or.inl hks
  · rw [(jsonSet_keeps hset).1] at hks
    exact Or.inl hks
  · obtain ⟨-, hks', -⟩ := Header.destroyKeyslot_spec hd
    rw [hks'] at hks
    by_cases hka : k = s
    · simp [hka] at hks
    · rw [Function.update_of_ne hka] at hks
      exact Or.inl hks

/-! ## One request

So every keyslot after a run of a request was there, or holds the secret that this request got.
-/

/-- Every keyslot of the header on `obj` is one of `h₀`, or `who` has made it for the secret that `r` got
by these answers. -/
def SourcedBy (who : Option ℕ) (r : SlotRequest) (obj : ℕ) (h₀ : Header)
    (past : List (Answered Cmd Reply)) (w : World) : Prop :=
  ∃ h, w.luks obj = some h ∧ ∀ k ks, h.keyslots k = some ks →
    h₀.keyslots k = some ks ∨ ks.creator = who ∧ r.Got past ks.secret

/-- **One command** leaves every keyslot with a source. -/
lemma SourcedBy.step {r : SlotRequest} {obj : ℕ} {h₀ : Header} {past : List (Answered Cmd Reply)}
    {c : Cmd} {o : Oracle} (hs : SourcedBy who r obj h₀ past w)
    (hc : c.TouchesOn r.device ∧ GotRule r c past) :
    SourcedBy who r obj h₀ (⟨c, (exec who c o w).1⟩ :: past) (exec who c o w).2 := by
  obtain ⟨h, hobj, hsource⟩ := hs
  obtain ⟨htouches, hrule⟩ := hc
  obtain ⟨-, h', hh', hkeyslots⟩ := @exec_keyslots who _ w obj h c htouches o hobj
  have hgrown : past ⊆ ⟨c, (exec who c o w).1⟩ :: past := List.subset_cons_self _ _
  refine ⟨h', hh', fun k ks hks => ?_⟩
  rcases hkeyslots k ks hks with hold | ⟨vk, pw, rfl, rfl, -, -⟩
  · exact (hsource k ks hold).imp_right fun hgot => ⟨hgot.1, hgot.2.mono hgrown⟩
  · exact Or.inr ⟨rfl, (hrule _ _ _ rfl).mono hgrown⟩

/-- **One request** leaves every keyslot as it was, or has made it for the secret it got. -/
lemma SlotRequest.run_sourced (r : SlotRequest) {obj : ℕ} {h₀ : Header} (hobj : w.luks obj = some h₀)
    (os : ℕ → Oracle) :
    SourcedBy who r obj h₀ (r.body.answers (exec who) os w).reverse (r.body.run (exec who) os w).2 := by
  have hend := (Tells.within r.body_touches r.body_tells).keeps_along (exec who)
    (fun c o past s hs hc => @SourcedBy.step who s r obj h₀ past c o hs hc)
    ⟨h₀, hobj, fun _ _ hks => Or.inl hks⟩ os
  rw [List.append_nil] at hend
  exact hend

end LuksEnroll
