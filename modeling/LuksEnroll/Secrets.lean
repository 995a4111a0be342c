import LuksEnroll.Concurrency
import LuksEnroll.Extraction
import LuksEnroll.LastKeyslot
import LuksEnroll.Library.Journal
import LuksEnroll.Methods
import LuksEnroll.Origins

/-!
# Which secrets open a volume

`VerifyPassphrase` answers from the keyslots of the header, and those are changed by nothing but
enrollments and wipes, which run beside each other.  Three facts about every schedule of any number
of them, with any faults:

* `accepted_while_spared`: a keyslot that no wipe of the volume names stays as it is, and so does the
  volume key, so that what opens it goes on opening it;
* `accepted_has_origin`: a secret that is accepted was accepted before, or a request on this very volume
  has added it, and then it is the secret that this request got in this run: what the authenticator or
  the kernel's random numbers answered *it*, or the passphrase it came with;
* `enrolled_secret_accepted`: an enrollment that reported success has left a keyslot for exactly the
  secret the user holds — the new passphrase, or the recovery key it printed — and that secret is
  accepted until the keyslot is wiped.

For the second the run has to be looked at together with its journal, which says who was answered what
(`recordedAfter`); keeping one changes nothing else (`Pool.run_unrecorded`).  That a request adds no
other secret than the one it got is known of the request alone (`SlotRequest.body_tells`); what becomes of
the header is a matter of single commands (`Sourced.step`).
-/

namespace LuksEnroll

open Library
open Prog (AllCalls Residual Tells)

variable {who : Option ℕ} {A : Oracle → Prop} {device : String} {w : World}

/-! ## Verifying

`VerifyPassphrase` says yes exactly when a keyslot of the header opens, and names it.
-/

/-- How `verify_passphrase` turns out: with a keyslot that the passphrase opens, or not, and then
for a reason. -/
def VerifyOutcome (A : Oracle → Prop) (device passphrase : String) (w : World) :
    Except String ℕ → Prop
  | Except.ok i => ∃ h, w.header device = some h ∧ h.opens (asBytes passphrase) i = true
  | Except.error _ => Faulty A ∨ ∀ h i, w.header device = some h →
      h.opens (asBytes passphrase) i = false

lemma volumeKeyGet_any (loaded : Header) (pw : Bytes) (o : Oracle) (v : World) :
    (∃ i, loaded.opens pw i = true
        ∧ (exec who (Cmd.volumeKeyGet loaded none pw) o v).1 = Except.ok (i, loaded.volumeKey))
      ∨ ∃ e, (exec who (Cmd.volumeKeyGet loaded none pw) o v).1 = Except.error e
        ∧ (o.fault.isSome ∨ ∀ i, loaded.opens pw i = false) := by
  show (∃ i, loaded.opens pw i = true
        ∧ (o.unlessFault ()).bind (fun _ => loaded.keyAt o none pw) = Except.ok (i, _))
      ∨ ∃ e, (o.unlessFault ()).bind (fun _ => loaded.keyAt o none pw) = Except.error e ∧ _
  rw [Oracle.unlessFault]
  cases hf : o.fault with
  | some e => exact Or.inr ⟨e, rfl, Or.inl rfl⟩
  | none =>
      rcases loaded.keyAt_any o pw with ⟨i, hi, hkey⟩ | ⟨hnone, hkey⟩
      · exact Or.inl ⟨i, hi, hkey⟩
      · exact Or.inr ⟨o.text, hkey, Or.inr hnone⟩

lemma verifyPassphrase_spec (passphrase : String) (w : World) :
    (verifyPassphrase device passphrase).wp (exec who) A
      (fun x _ => VerifyOutcome A device passphrase w x) w := by
  refine Prog.wp_bind (Prog.wp_mono (fun x v hx => ?_) (openLuks2_spec w))
  obtain ⟨-, hx⟩ := hx
  cases x with
  | error e =>
      rcases hx with hf | hn
      · exact Or.inl hf
      · exact Or.inr fun h i hh => absurd (hn.symm.trans hh) (by simp)
  | ok loaded =>
      refine wp_ask_orFail (c := Cmd.volumeKeyGet loaded none (asBytes passphrase)) (r := id)
        (fun o r _ hr => ?_) (fun o e ho he => ?_)
      · rcases @volumeKeyGet_any who loaded (asBytes passphrase) o v with ⟨i, hi, hget⟩ | ⟨e, hget, -⟩
        · obtain rfl := Except.ok.inj (hget.symm.trans hr)
          exact fun _ _ => ⟨loaded, hx, hi⟩
        · exact absurd (hget.symm.trans hr) (by simp)
      · rcases @volumeKeyGet_any who loaded (asBytes passphrase) o v with
          ⟨i, -, hget⟩ | ⟨e', -, hf | hnone⟩
        · exact absurd (hget.symm.trans he) (by simp)
        · exact Or.inl ⟨o, ho, hf⟩
        · refine Or.inr fun h i hh => ?_
          obtain rfl : loaded = h := Option.some.inj (hx.symm.trans hh)
          exact hnone i

/-- The answer of the `VerifyPassphrase` method. -/
lemma verify_answer (passphrase : String) {os : ℕ → Oracle} (hos : ∀ n, A (os n)) (w : World) :
    ∃ x, VerifyOutcome A device passphrase w x ∧
      (((VolumeOp.verifyPassphrase passphrase).body device).run (exec who) os w).1
        = Except.ok (match x with
          | Except.ok i => Answer.found true i
          | Except.error _ => Answer.found false (-1)) := by
  refine ⟨_, Prog.wp_sound (@verifyPassphrase_spec who A device passphrase w) os hos, ?_⟩
  have hattempt := Prog.run_attempt (δ := String) (exec who) (verifyPassphrase device passphrase) os w
  show ((foundSlot (verifyPassphrase device passphrase)).run (exec who) os w).1 = _
  rw [foundSlot, Prog.bind_def, Prog.run_bind_ok hattempt]
  cases ((verifyPassphrase device passphrase).run (exec who) os w).1 <;> rfl

/-- **Undisturbed, a passphrase is accepted exactly if it opens some keyslot.** -/
theorem verify_iff (passphrase : String) {os : ℕ → Oracle} (hos : ∀ n, (os n).fault = none)
    (w : World) :
    (∃ slot, (((VolumeOp.verifyPassphrase passphrase).body device).run (exec who) os w).1
        = Except.ok (Answer.found true slot))
      ↔ ∃ h i, w.header device = some h ∧ h.opens (asBytes passphrase) i = true := by
  obtain ⟨x, hx, hanswer⟩ := @verify_answer who (fun o => o.fault = none) device passphrase os hos w
  have hquiet : ¬ Faulty fun o : Oracle => o.fault = none := by
    rintro ⟨o, ho, hf⟩
    rw [ho] at hf
    cases hf
  rw [hanswer]
  cases x with
  | ok i =>
      obtain ⟨h, hh, hi⟩ := hx
      exact ⟨fun _ => ⟨h, i, hh, hi⟩, fun _ => ⟨i, rfl⟩⟩
  | error e =>
      constructor
      · rintro ⟨slot, hslot⟩
        cases hslot
      · rintro ⟨h, i, hh, hi⟩
        rw [hx.resolve_left hquiet h i hh] at hi
        cases hi

/-! ## What stays

A run of calls in any order, none of which destroys the keyslot.
-/

namespace SlotRequest

/-- Not a wipe of keyslot `k`, of whatever volume. -/
def Spares (k : ℤ) : SlotRequest → Prop
  | wipeSlot _ _ _ _ slot => slot.val ≠ k
  | _ => True

/-- A destroy that a request issues is of the keyslot it names. -/
lemma destroys_own {r : SlotRequest} {d : String} {s : ℕ} (hspares : r.Spares s)
    (hs : s < keyslotsMax)
    (hc : Cmd.Either (Cmd.ReadsOn r.device) r.Writes (Cmd.keyslotDestroy d s)) : False := by
  rcases hc with hread | hw
  · exact hread
  · cases r with
    | wipeSlot device passphrase unlockMethod pin slot =>
        rcases hw with ⟨id, hid⟩ | hd
        · cases hid
        · obtain ⟨-, rfl⟩ := Cmd.keyslotDestroy.inj hd
          exact hspares (eq_asU32_of_lt slot.property.1 slot.property.2 hs)
    | enrollPassphrase device existing new unlockMethod unlockPin =>
        obtain ⟨vk, pw, hw⟩ := hw
        cases hw
    | _ => rcases hw with ⟨vk, pw, hw⟩ | ⟨json, hw⟩ <;> cases hw

end SlotRequest

section Schedules

variable {n : ℕ} {reqs : Fin n → SlotRequest} {obj k : ℕ} {ks : Keyslot} {vk : VolumeKey}

/-- The header on `obj` has this keyslot and this volume key. -/
def Keeps (obj k : ℕ) (ks : Keyslot) (vk : VolumeKey) (w : World) : Prop :=
  ∃ h, w.luks obj = some h ∧ h.keyslots k = some ks ∧ h.volumeKey = vk

/-- **One command** keeps the keyslot, if no request on the object wipes it. -/
lemma keeps_step {p : RequestPool n}
    (hspare : ∀ i, p.state.fs.node (reqs i).device = some obj → (reqs i).Spares k)
    (hp : Started reqs p) (hk : Keeps obj k ks vk p.state) (i : Fin n) (o : Oracle) :
    (p.step (handlers n) i o).state.fs = p.state.fs
      ∧ Keeps obj k ks vk (p.step (handlers n) i o).state := by
  rcases Pool.step_cases (handlers n) p i o with hstep | ⟨c, f, hcall, -, hstate⟩
  · rw [hstep]
    exact ⟨rfl, hk⟩
  · obtain ⟨h, hobj, hks, hvk⟩ := hk
    rw [hstate]
    have hres := hp i
    rw [hcall] at hres
    have hlt : k < keyslotsMax := Header.lt_of_mem_slotIds (Header.mem_slotIds.mpr (by rw [hks]; rfl))
    obtain ⟨hfs, h', hh', hcase⟩ := @exec_header_cases (some i.val) _ c
      (hres.allCalls (reqs i).body_touches).1 o p.state obj h hobj
    refine ⟨hfs, h', hh', ?_⟩
    rcases hcase with rfl | ⟨hnode, -, ⟨vk', pw, j, -, hadd⟩ | ⟨input, j, -, hset⟩ | ⟨s, rfl, hd⟩⟩
    · exact ⟨hks, hvk⟩
    · obtain ⟨pw', -, hfree, hks', -, hvk'⟩ := addByKey_ok hadd
      have hne : k ≠ j := by
        rintro rfl
        rw [hfree] at hks
        cases hks
      exact ⟨by rw [hks', Function.update_of_ne hne, hks], hvk'.trans hvk⟩
    · obtain ⟨hks', hvk'⟩ := jsonSet_keeps hset
      exact ⟨by rw [hks', hks], hvk'.trans hvk⟩
    · obtain ⟨-, hks', -, hvk'⟩ := Header.destroyKeyslot_spec hd
      have hne : k ≠ s := by
        rintro rfl
        exact SlotRequest.destroys_own (hspare i hnode) hlt (hres.allCalls (reqs i).body_issues).1
      exact ⟨by rw [hks', Function.update_of_ne hne, hks], hvk'.trans hvk⟩

/-- What every step of every request keeps, every schedule keeps; and the file system is left alone. -/
lemma kept_by_run {I : World → Prop}
    (hstep : ∀ p : RequestPool n, Started reqs p → p.state.fs = w.fs → I p.state → ∀ i o,
      (p.step (handlers n) i o).state.fs = p.state.fs ∧ I (p.step (handlers n) i o).state)
    (hI : I w) (sched : List (Fin n × Oracle)) :
    ((Requests reqs w).run (handlers n) sched).state.fs = w.fs
      ∧ I ((Requests reqs w).run (handlers n) sched).state := by
  suffices h : ∀ p : RequestPool n, Started reqs p → p.state.fs = w.fs → I p.state →
      (p.run (handlers n) sched).state.fs = w.fs ∧ I (p.run (handlers n) sched).state from
    h _ (started_requests w) rfl hI
  induction sched with
  | nil => exact fun p _ hfs hp => ⟨hfs, hp⟩
  | cons x sched ih =>
      intro p hstarted hfs hp
      obtain ⟨hfs', hp'⟩ := hstep p hstarted hfs hp x.1 x.2
      exact ih _ (started_step hstarted x.1 x.2) (hfs'.trans hfs) hp'

/-- What opens a keyslot goes on opening it until that keyslot is wiped. -/
lemma opens_while_spared {pw : Bytes} {h : Header} (hh : w.header device = some h)
    (hopens : h.opens pw k = true)
    (hspare : ∀ i, w.fs.node (reqs i).device = w.fs.node device → (reqs i).Spares k)
    (sched : List (Fin n × Oracle)) :
    ∃ h', ((Requests reqs w).run (handlers n) sched).state.header device = some h'
      ∧ h'.opens pw k = true := by
  obtain ⟨obj, hobj, hluks⟩ := Option.bind_eq_some_iff.mp hh
  cases hks : h.keyslots k with
  | none => simp [Header.opens, hks] at hopens
  | some ks =>
      obtain ⟨hfs, h', hh', hks', -⟩ := kept_by_run (I := Keeps obj k ks h.volumeKey)
        (fun p hp hfs hk i o => keeps_step (fun j hj => hspare j (by rw [← hfs, hj, hfs, hobj])) hp hk
          i o) ⟨h, hluks, hks, rfl⟩ sched
      refine ⟨h', ?_, ?_⟩
      · rw [World.header, hfs, hobj]
        exact hh'
      · rw [Header.opens, hks']
        rw [Header.opens, hks] at hopens
        exact hopens

/-- **A passphrase stays good.**  Where it opens a keyslot, it is accepted after every schedule of any
number of requests of which none on the same volume wipes that keyslot, by a `VerifyPassphrase` that meets
no fault itself. -/
theorem accepted_while_spared {passphrase : String} {h : Header} (hh : w.header device = some h)
    (hopens : h.opens (asBytes passphrase) k = true)
    (hspare : ∀ i, w.fs.node (reqs i).device = w.fs.node device → (reqs i).Spares k)
    (sched : List (Fin n × Oracle)) {os : ℕ → Oracle} (hos : ∀ m, (os m).fault = none) :
    ∃ slot, (((VolumeOp.verifyPassphrase passphrase).body device).run (exec who) os
        ((Requests reqs w).run (handlers n) sched).state).1
      = Except.ok (Answer.found true slot) := by
  obtain ⟨h', hh', hopens'⟩ := opens_while_spared hh hopens hspare sched
  exact (verify_iff passphrase hos _).mpr ⟨h', k, hh', hopens'⟩

/-! ## Where a secret comes from

The other direction: what opens a keyslot later was there before, or a request put it there, and its
history says what it was.
-/

/-- The requests, with a record of everything they are answered. -/
def Recorded (reqs : Fin n → SlotRequest) (w : World) :
    Pool (Fin n) Cmd Reply String Triple (Journal (Fin n) Cmd Reply World) where
  threads := fun i => (reqs i).body
  state := ⟨w, []⟩

/-- The record of a schedule. -/
def recordedAfter (reqs : Fin n → SlotRequest) (w : World) (sched : List (Fin n × Oracle)) :
    Journal (Fin n) Cmd Reply World :=
  ((Recorded reqs w).run (journaled (handlers n)) sched).state

lemma recordedAfter_state (reqs : Fin n → SlotRequest) (w : World) (sched : List (Fin n × Oracle)) :
    (recordedAfter reqs w sched).state = ((Requests reqs w).run (handlers n) sched).state :=
  congrArg Pool.state (Pool.run_unrecorded (handlers n) (Recorded reqs w) sched)

/-- **A request on the object supplied the secret**: it is the one that this request got, and the request
has added it to the header. -/
def Supplied (reqs : Fin n → SlotRequest) (fs : FileSystem) (obj : ℕ)
    (log : List (Event (Fin n) Cmd Reply World)) (secret : Bytes) : Prop :=
  ∃ i vk k, fs.node (reqs i).device = some obj
    ∧ ⟨Cmd.addByKey (reqs i).device vk secret, Except.ok k⟩ ∈ own i log
    ∧ (reqs i).Got (own i log) secret

lemma Supplied.mono {fs : FileSystem} {log log' : List (Event (Fin n) Cmd Reply World)} {secret : Bytes}
    (h : Supplied reqs fs obj log secret) (hlog : ∀ i, own i log ⊆ own i log') :
    Supplied reqs fs obj log' secret := by
  obtain ⟨i, vk, k, hnode, hadded, hgot⟩ := h
  exact ⟨i, vk, k, hnode, hlog i hadded, hgot.mono (hlog i)⟩

/-- Every keyslot of the header on `obj` is one of `h₀`, or its secret was supplied. -/
structure Sourced (reqs : Fin n → SlotRequest) (fs : FileSystem) (obj : ℕ) (h₀ : Header)
    (j : Journal (Fin n) Cmd Reply World) : Prop where
  sameFs : j.state.fs = fs
  keyslots : ∃ h, j.state.luks obj = some h ∧ ∀ k ks, h.keyslots k = some ks →
    h₀.keyslots k = some ks ∨ Supplied reqs fs obj j.log ks.secret

/-- **One command** leaves every keyslot with a source. -/
lemma Sourced.step {fs : FileSystem} {h₀ : Header} {i : Fin n} {c : Cmd} {o : Oracle}
    {j : Journal (Fin n) Cmd Reply World} (hs : Sourced reqs fs obj h₀ j)
    (hc : c.TouchesOn (reqs i).device) (hrule : GotRule (reqs i) c (own i j.log)) :
    Sourced reqs fs obj h₀ (journaled (handlers n) i c o j).2 := by
  obtain ⟨hfs, h, hobj, hsource⟩ := hs
  obtain ⟨hfs', h', hh', hkeyslots⟩ := @exec_keyslots (some i.val) _ j.state obj h c hc o hobj
  have hgrown : ∀ m, own m j.log ⊆ own m (journaled (handlers n) i c o j).2.log := by
    intro m
    by_cases hm : i = m
    · subst hm
      rw [own_journaled_self]
      exact List.subset_cons_self _ _
    · rw [own_journaled_ne (handlers n) hm]
      exact fun _ hx => hx
  have hkept : ∀ {k : ℕ} {ks : Keyslot}, h.keyslots k = some ks → h₀.keyslots k = some ks
      ∨ Supplied reqs fs obj (journaled (handlers n) i c o j).2.log ks.secret := fun hks =>
    (hsource _ _ hks).imp_right fun hsupplied => hsupplied.mono hgrown
  refine ⟨hfs'.trans hfs, h', hh', fun k ks hks => ?_⟩
  rcases hkeyslots k ks hks with hold | ⟨vk, pw, rfl, rfl, hnode, hanswer⟩
  · exact hkept hold
  · -- the new keyslot: its secret is the one that the request got
    refine Or.inr ⟨i, vk, k, hfs ▸ hnode, ?_, (hrule _ _ _ rfl).mono (hgrown i)⟩
    rw [own_journaled_self, show (handlers n i (Cmd.addByKey (reqs i).device vk pw) o j.state).1
      = Except.ok k from hanswer]
    exact List.mem_cons_self ..

/-- After any schedule every keyslot has a source. -/
lemma sourced_after {h₀ : Header} (hobj : w.luks obj = some h₀) (sched : List (Fin n × Oracle)) :
    Sourced reqs w.fs obj h₀ (recordedAfter reqs w sched) :=
  (Pool.run_journal_all (handlers n)
    (P := fun i c past => c.TouchesOn (reqs i).device ∧ GotRule (reqs i) c past)
    (fun _ _ _ _ hj hP => hj.step hP.1 hP.2)
    (fun i => Tells.within (reqs i).body_touches (reqs i).body_tells)
    ⟨rfl, h₀, hobj, fun _ _ hks => Or.inl hks⟩ sched).1

/-- **Nothing else ever opens the volume.**  After every schedule of any number of enrollments and
wipes, with any faults, a passphrase that is accepted was accepted before, or one of the requests, on this
very volume, has added it in this run, and it is the secret that this request got: from the authenticator,
from the kernel's random numbers, or with its call. -/
theorem accepted_has_origin {passphrase : String} {h₀ : Header} (hnode : w.fs.node device = some obj)
    (hh : w.luks obj = some h₀) (sched : List (Fin n × Oracle)) {os : ℕ → Oracle} {slot : ℤ}
    (haccept : (((VolumeOp.verifyPassphrase passphrase).body device).run (exec who) os
        ((Requests reqs w).run (handlers n) sched).state).1 = Except.ok (Answer.found true slot)) :
    (∃ k, h₀.opens (asBytes passphrase) k = true)
      ∨ Supplied reqs w.fs obj (recordedAfter reqs w sched).log (asBytes passphrase) := by
  obtain ⟨hfs, h, hobj, hsource⟩ := @sourced_after w n reqs obj h₀ hh sched
  rw [← recordedAfter_state] at haccept
  obtain ⟨x, hx, hanswer⟩ := @verify_answer who (fun _ => True) device passphrase os
    (fun _ => trivial) (recordedAfter reqs w sched).state
  rw [hanswer] at haccept
  cases x with
  | error e => cases haccept
  | ok i =>
      obtain ⟨h₁, hh₁, hi⟩ := hx
      obtain rfl : h = h₁ := by
        rw [World.header, hfs, hnode, Option.bind_some, hobj, Option.some.injEq] at hh₁
        exact hh₁
      rw [Header.opens] at hi
      cases hks : h.keyslots i with
      | none => simp [hks] at hi
      | some ks =>
          simp only [hks, Bool.and_eq_true, decide_eq_true_eq] at hi
          rcases hsource i ks hks with hold | hsupplied
          · exact Or.inl ⟨i, by simp [Header.opens, hold, hi.1, hi.2]⟩
          · exact Or.inr (hi.2 ▸ hsupplied)

end Schedules

/-- A wipe of the second keyslot beside an enrollment of a third passphrase. -/
def wipeAndAdd : Fin 2 → SlotRequest
  | 0 => SlotRequest.wipeSlot "/dev/sdb1" "pw" "passphrase" "" ⟨1, i32_one⟩
  | 1 => SlotRequest.enrollPassphrase "/dev/sdb1" "pw" "pw3" "passphrase" ""

/-- One request after the other, so many steps each, and nothing fails. -/
def oneByOne (n steps : ℕ) : List (Fin n × Oracle) :=
  (List.finRange n).flatMap fun i => List.replicate steps (i, Oracle.quiet)

theorem wipeAndAdd_keeps_first :
    ∃ slot, (((VolumeOp.verifyPassphrase "pw").body "/dev/sdb1").run (exec none)
        (fun _ => Oracle.quiet)
        ((Requests wipeAndAdd twoPassphrases).run (handlers 2) (oneByOne 2 20)).state).1
      = Except.ok (Answer.found true slot) := by
  refine accepted_while_spared (k := 0) rfl (by decide +kernel) (fun i _ => ?_)
    (oneByOne 2 20) fun _ => rfl
  match i with
  | 0 => exact (by decide : (1 : ℤ) ≠ 0)
  | 1 => trivial

theorem wipeAndAdd_accepts_added :
    (∃ k, (Header.ofKeyslots ⟨[7]⟩ [⟨"luks2", asBytes "pw", true, none⟩,
        ⟨"luks2", asBytes "pw2", true, none⟩] (by decide)).opens (asBytes "pw3") k = true)
      ∨ Supplied wipeAndAdd twoPassphrases.fs 0
        (recordedAfter wipeAndAdd twoPassphrases (oneByOne 2 20)).log (asBytes "pw3") :=
  @accepted_has_origin none "/dev/sdb1" twoPassphrases 2 wipeAndAdd 0 "pw3" _ rfl rfl (oneByOne 2 20)
    (fun _ => Oracle.quiet) 1 rfl

/-! ## What an enrollment tells the user

A recovery key is shown once, and a passphrase is what the user typed.  Both are the secret of the
new keyslot.
-/

/-- The secret that the user holds after an enrollment that reported success with this output. -/
def SlotRequest.told (out : String) : SlotRequest → Option String
  | enrollRecoveryKey _ _ _ _ => some out
  | enrollPassphrase _ _ newPassphrase _ _ => some newPassphrase
  | _ => none

/-- A keyslot for `secret` was added, at an index that was free. -/
def SecretStored (who : Option ℕ) (device : String) (secret : Bytes) (w w' : World) : Prop :=
  ∃ h h' k, w.Wrote device h h' w' ∧ h.keyslots k = none
    ∧ h'.keyslots k = some (Header.newKeyslot who secret)

lemma storeToken_answer (prepared : Prepared) (i : ℕ) (w : World) :
    (storeToken device prepared i).wp (exec who) A
      (fun x _ => ∀ t, x = Except.ok t → t = (true, prepared.stdout, "")) w := by
  refine Prog.wp_bind (Prog.wp_mono (fun x v _ => ?_) (setToken_spec _ _ w))
  cases x with
  | ok j => exact fun t ht => (Except.ok.inj ht).symm
  | error e => exact fun t ht => by cases ht

/-- An enrollment that succeeds has stored the secret it tells the user. -/
lemma told_stored (r : SlotRequest) (w : World) :
    r.body.wp (exec who) A (fun x v => ∀ out err pw, x = Except.ok (true, out, err) →
      r.told out = some pw → SecretStored who r.device (asBytes pw) w v) w := by
  have hfailed : ∀ (Q : Prop) (out err : String),
      (Except.ok opFailed : Except String Triple) = Except.ok (true, out, err) → Q :=
    fun Q out err h => by cases h
  cases r with
  | enrollRecoveryKey device passphrase unlockMethod unlockPin =>
      refine runOp_spec fun o _ => ?_
      have hread := @exec_readsOn device who (Cmd.osRandom 32) trivial o w
      refine wp_addAuthorised (fun vk o' h h₁ i v hadd hwrote => ?_)
        (fun e v _ out err pw hx => hfailed _ _ _ hx)
      obtain ⟨hindex, hks, -⟩ := Header.addKeyslot_spec (addByKey_addKeyslot hadd)
      have hi : (h₁.keyslots i).isSome := by simp [hks]
      refine Prog.wp_mono (fun x v₂ hx => ?_) (Prog.wp_and
        (storeToken_spec tokenShape_obj hwrote.header hi) (storeToken_answer _ i v))
      cases x with
      | error e => exact fun out err pw hx => hfailed _ _ _ hx
      | ok t =>
          obtain ⟨⟨-, h₂, ⟨j, t', -, -, -, -, hks₂, -⟩, hw₂⟩, hanswer⟩ := hx
          intro out err pw hx htold
          obtain rfl := Except.ok.inj hx
          obtain ⟨-, rfl, -⟩ := Prod.mk.inj (hanswer _ rfl) |>.imp id Prod.mk.inj
          obtain rfl := Option.some.inj htold
          refine ⟨h, h₂, i, (hwrote.of_sameDisk hread).trans hw₂, (freeIndex_some hindex).2, ?_⟩
          rw [hks₂, hks, Function.update_self]
  | enrollPassphrase device existing new unlockMethod unlockPin =>
      refine runOp_spec (wp_addAuthorised (fun vk o h h₁ i v hadd hwrote => ?_)
        (fun e v _ out err pw hx => hfailed _ _ _ hx))
      obtain ⟨hindex, hks, -⟩ := Header.addKeyslot_spec (addByKey_addKeyslot hadd)
      intro out err pw _ htold
      obtain rfl := Option.some.inj htold
      exact ⟨h, h₁, i, hwrote, (freeIndex_some hindex).2, by rw [hks, Function.update_self]⟩
  | _ => exact Prog.wp_mono (fun _ _ _ _ _ _ _ htold => by cases htold) (SlotRequest.body_effect _ w)

/-- **What was enrolled opens the volume.**  An enrollment of a passphrase or a recovery key that
reports success, in whatever world and with whatever faults, leaves a keyslot at an index that was
free, for exactly the secret the user has; and whatever runs after it, in any schedule and with any
faults, that secret is accepted, by a `VerifyPassphrase` that meets no fault itself, as long as no request on the
same volume wipes that keyslot. -/
theorem enrolled_secret_accepted {r : SlotRequest} {out err pw : String} {os : ℕ → Oracle}
    (hok : (r.body.run (exec who) os w).1 = Except.ok (true, out, err))
    (htold : r.told out = some pw) :
    ∃ k, (∀ h, w.header r.device = some h → h.keyslots k = none) ∧
      ∀ (n : ℕ) (reqs : Fin n → SlotRequest) (sched : List (Fin n × Oracle)),
        (∀ i, w.fs.node (reqs i).device = w.fs.node r.device → (reqs i).Spares k) →
        ∀ (who' : Option ℕ) (os' : ℕ → Oracle), (∀ m, (os' m).fault = none) →
          ∃ slot, (((VolumeOp.verifyPassphrase pw).body r.device).run (exec who') os'
              ((Requests reqs (r.body.run (exec who) os w).2).run (handlers n) sched).state).1
            = Except.ok (Answer.found true slot) := by
  obtain ⟨h, h', k, hwrote, hfree, hks⟩ := Prog.wp_sound (@told_stored who (fun _ => True) r w) os
    (fun _ => trivial) out err pw hok htold
  refine ⟨k, fun h₀ hh₀ => ?_, fun n reqs sched hspare who' os' hos' => ?_⟩
  · obtain rfl : h = h₀ := Option.some.inj (hwrote.stored.symm.trans hh₀)
    exact hfree
  · have hopens : h'.opens (asBytes pw) k = true := by simp [Header.opens, hks, Header.newKeyslot]
    obtain ⟨h'', hh'', hopens'⟩ := opens_while_spared hwrote.header hopens
      (fun i hi => hspare i (by rwa [hwrote.fs] at hi)) sched
    exact (verify_iff pw hos' _).mpr ⟨h'', k, hh'', hopens'⟩

/-- A recovery key that was printed, then a wipe of the passphrase it was enrolled with. -/
theorem printed_recovery_key_accepted :
    ∃ k, (∀ h, twoPassphrases.header "/dev/sdb1" = some h → h.keyslots k = none) ∧
      ∀ (n : ℕ) (reqs : Fin n → SlotRequest) (sched : List (Fin n × Oracle)),
        (∀ i, twoPassphrases.fs.node (reqs i).device = twoPassphrases.fs.node "/dev/sdb1" →
          (reqs i).Spares k) →
        ∀ (who' : Option ℕ) (os' : ℕ → Oracle), (∀ m, (os' m).fault = none) →
          ∃ slot, (((VolumeOp.verifyPassphrase (makeRecoveryKey (List.replicate 32 0))).body
              "/dev/sdb1").run (exec who') os' ((Requests reqs
                ((SlotRequest.enrollRecoveryKey "/dev/sdb1" "pw" "passphrase" "").body.run (exec none)
                  (fun _ => Oracle.quiet) twoPassphrases).2).run (handlers n) sched).state).1
            = Except.ok (Answer.found true slot) :=
  @enrolled_secret_accepted none twoPassphrases
    (SlotRequest.enrollRecoveryKey "/dev/sdb1" "pw" "passphrase" "")
    (makeRecoveryKey (List.replicate 32 0)) "" _ (fun _ => Oracle.quiet) (by decide +kernel) rfl

end LuksEnroll
