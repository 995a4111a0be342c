import LuksEnroll.Library.Journal
import LuksEnroll.Outcomes

/-!
# Concurrent requests

Handler bodies run on threads of their own, so between any two commands of one request every other
request may act.  A set of requests is a pool with one thread for each; the number of a request is
its index.

What every statement about such a pool starts from: each thread is what is left of its request's
body (`Started`), and one step changes one header by at most one libcryptsetup call
(`exec_header_cases`).

The second half lists what a request can write, function by function: `Cmd.Either` is a command of one
class or of another, so that a lemma says of a function that it reads, except for this one write.  The
last of them, `SlotRequest.body_touches`, is what an invariant of many requests is proved from.
-/

namespace LuksEnroll

open Library

variable {n : ℕ} {reqs : Fin n → SlotRequest}

/-- The requests, all of them at their start. -/
def Requests (reqs : Fin n → SlotRequest) (w : World) : Pool (Fin n) Cmd Reply String Triple World where
  threads := fun i => (reqs i).body
  state := w

/-- Each request writes under its own number. -/
def handlers (n : ℕ) : Fin n → Handler Cmd Reply Oracle World := fun i => exec (some i.val)

/-- As many requests as are under way at once. -/
abbrev RequestPool (n : ℕ) := Pool (Fin n) Cmd Reply String Triple World

/-- Every thread is what is left of its request. -/
def Started (reqs : Fin n → SlotRequest) (p : RequestPool n) : Prop :=
  ∀ i, Prog.Residual (reqs i).body (p.threads i)

/-! ## One command -/

/-- What an enrollment or a wipe issues: reads, and the three header writes, on its device. -/
def Cmd.TouchesOn (device : String) (c : Cmd) : Prop :=
  c.ReadsOn device ∨ (∃ vk pw, c = Cmd.addByKey device vk pw)
    ∨ (∃ input, c = Cmd.tokenJsonSet device input) ∨ ∃ slot, c = Cmd.keyslotDestroy device slot

/-- **What one command does to a header**: nothing, or, if the device leads to it, one keyslot
added, one token set, or one keyslot destroyed. -/
lemma exec_header_cases {who : Option ℕ} {device : String} {c : Cmd} (hc : c.TouchesOn device)
    (o : Oracle) {w : World} {obj : ℕ} {h : Header} (hobj : w.luks obj = some h) :
    (exec who c o w).2.fs = w.fs ∧ ∃ h', (exec who c o w).2.luks obj = some h' ∧
      (h' = h ∨ w.fs.node device = some obj ∧ o.fault = none ∧
        ((∃ vk pw i, c = Cmd.addByKey device vk pw ∧ h.addByKey who o vk pw = Except.ok (i, h'))
          ∨ (∃ input j, c = Cmd.tokenJsonSet device input ∧ h.jsonSet who o input = Except.ok (j, h'))
          ∨ ∃ slot, c = Cmd.keyslotDestroy device slot ∧ h.destroyKeyslot slot = some h')) := by
  -- one header write, wherever the device leads
  have hupdate : ∀ {α : Type} (f : Header → Except String (α × Header)),
      ({ w with now := w.now + o.elapsed }.update device o f).2.fs = w.fs ∧
      ∃ h', ({ w with now := w.now + o.elapsed }.update device o f).2.luks obj = some h' ∧
        (h' = h ∨ w.fs.node device = some obj ∧ o.fault = none ∧ ∃ a, f h = Except.ok (a, h')) := by
    intro α f
    rcases World.update_cases { w with now := w.now + o.elapsed } device o f with
      ⟨h₀, a, h', hfault, -, hf, -, hwrote⟩ | ⟨e, hres, -⟩
    · refine ⟨hwrote.fs, ?_⟩
      rcases hwrote.luks_cases hobj with ⟨-, hluks⟩ | ⟨rfl, hnode, hluks⟩
      · exact ⟨h, hluks, Or.inl rfl⟩
      · exact ⟨h', hluks, Or.inr ⟨hnode, hfault, a, hf⟩⟩
    · rw [hres]
      exact ⟨rfl, h, hobj, Or.inl rfl⟩
  rcases hc with hread | ⟨vk, pw, rfl⟩ | ⟨input, rfl⟩ | ⟨slot, rfl⟩
  · have hsame := @exec_readsOn device who c hread o w
    exact ⟨hsame.fs, h, by rw [hsame.luks, hobj], Or.inl rfl⟩
  · obtain ⟨hfs, h', hh', hcase⟩ := hupdate fun h => h.addByKey who o vk pw
    refine ⟨hfs, h', hh', hcase.imp_right ?_⟩
    rintro ⟨hn, hfault, i, hi⟩
    exact ⟨hn, hfault, Or.inl ⟨vk, pw, i, rfl, hi⟩⟩
  · obtain ⟨hfs, h', hh', hcase⟩ := hupdate fun h => h.jsonSet who o input
    refine ⟨hfs, h', hh', hcase.imp_right ?_⟩
    rintro ⟨hn, hfault, j, hj⟩
    exact ⟨hn, hfault, Or.inr (Or.inl ⟨input, j, rfl, hj⟩)⟩
  · obtain ⟨hfs, h', hh', hcase⟩ := hupdate fun h => h.keyslotDestroy o slot
    refine ⟨hfs, h', hh', hcase.imp_right ?_⟩
    rintro ⟨hn, hfault, u, hu⟩
    exact ⟨hn, hfault, Or.inr (Or.inr ⟨slot, rfl, keyslotDestroy_ok hu⟩)⟩

/-! ## What the requests issue -/

open Prog (AllCalls Residual)

/-- Turning a failure into an answer asks for nothing. -/
lemma allCalls_runOp {P : Cmd → Prop} {body : Op Triple} (hb : body.AllCalls P) :
    (runOp body).AllCalls P := by
  refine AllCalls.bind hb.attempt fun x => ?_
  cases x <;> trivial

/-- What is told of a body is told of `run_op` around it. -/
lemma tells_runOp {P : Cmd → List (Answered Cmd Reply) → Prop} {past : List (Answered Cmd Reply)}
    {body : Op Triple} (h : body.Tells P (fun _ _ => True) past) :
    (runOp body).Tells P (fun _ _ => True) past := by
  refine Prog.Tells.bind (Prog.Tells.attempt (Prog.Tells.mono (fun x past' _ => ?_) h))
  cases x with
  | ok t => trivial
  | error e => trivial

/-- A command of one class or of the other. -/
def Cmd.Either (P Q : Cmd → Prop) (c : Cmd) : Prop := P c ∨ Q c

section Either

variable {P Q : Cmd → Prop} {device : String} {α : Type}

lemma allCalls_left {p : Op α} (hp : p.AllCalls P) : p.AllCalls (Cmd.Either P Q) :=
  hp.mono fun _ => Or.inl

lemma either_reads {p : Op α} (hp : p.AllCalls (Cmd.Either (Cmd.LooksOn device) Q)) :
    p.AllCalls (Cmd.Either (Cmd.ReadsOn device) Q) := hp.mono fun _ => Or.imp_left Cmd.LooksOn.reads

lemma either_looks {p : Op α} (hp : p.AllCalls (Cmd.Either (Cmd.SessionOn device) Q)) :
    p.AllCalls (Cmd.Either (Cmd.LooksOn device) Q) := hp.mono fun _ => Or.imp_left Cmd.SessionOn.looks

lemma setToken_issues {tokenId : ℤ} {json : Option Json}
    (hw : Q (Cmd.tokenJsonSet device (tokenInput tokenId json))) :
    (setToken device tokenId json).AllCalls (Cmd.Either (Cmd.SessionOn device) Q) :=
  AllCalls.bind (allCalls_left (openLuks2_session device)) fun _ =>
    AllCalls.bind (allCalls_ask.mpr (Or.inr hw)) fun _ => allCalls_orFail _ _

/-- Destroying a keyslot: a session, with this one write. -/
lemma destroyKeyslot_issues {slot : ℤ} (hw : Q (Cmd.keyslotDestroy device (asU32 slot))) :
    (destroyKeyslot device slot).AllCalls (Cmd.Either (Cmd.SessionOn device) Q) :=
  AllCalls.bind (allCalls_left (openLuks2_session device)) fun _ =>
    AllCalls.bind (allCalls_ask.mpr (Or.inr hw)) fun _ => allCalls_orFail _ _

lemma choosePbkdf_looks (minimalPbkdf : Bool) :
    (choosePbkdf minimalPbkdf).AllCalls (Cmd.LooksOn device) := by
  cases minimalPbkdf with
  | false => trivial
  | true => exact AllCalls.bind (allCalls_ask.mpr trivial) fun _ => allCalls_orFail _ _

/-- Adding a keyslot: a session, with this one write. -/
lemma addKeyslotByVolumeKey_issues {vk : VolumeKey} {pw : Bytes} (minimalPbkdf : Bool)
    (hw : Q (Cmd.addByKey device (some vk) pw)) :
    (addKeyslotByVolumeKey device vk pw minimalPbkdf).AllCalls
      (Cmd.Either (Cmd.LooksOn device) Q) :=
  AllCalls.bind (allCalls_left (openLuks2_looks device)) fun _ =>
    AllCalls.bind (allCalls_left (choosePbkdf_looks minimalPbkdf)) fun _ =>
      AllCalls.bind (allCalls_ask.mpr (Or.inr hw)) fun _ => allCalls_orFail _ _

end Either

/-- The token that the tail of an enrollment writes. -/
def stamped (prepared : Prepared) (keyslot : ℕ) : Json :=
  prepared.token.set "keyslots" (Json.arr [Json.str (toString keyslot)])

/-- Storing a token: a session, with this one write. -/
lemma storeToken_issues (device : String) (prepared : Prepared) (keyslot : ℕ) :
    (storeToken device prepared keyslot).AllCalls (Cmd.Either (Cmd.SessionOn device) fun c =>
      c = Cmd.tokenJsonSet device (TokenInput.add (stamped prepared keyslot))) :=
  AllCalls.bind (setToken_issues rfl) fun _ => trivial

/-- The writes of a wipe: tokens removed, and its own keyslot destroyed. -/
def Cmd.WipeWrite (device : String) (slot : ℤ) (c : Cmd) : Prop :=
  (∃ id, c = Cmd.tokenJsonSet device (TokenInput.remove id))
    ∨ c = Cmd.keyslotDestroy device (asU32 slot)

/-- The rest of a wipe writes in two places, the token and the keyslot. -/
lemma wipeRest_issues (device : String) (slot : ℤ) :
    (wipeRest device slot).AllCalls
      (Cmd.Either (Cmd.SessionOn device) (Cmd.WipeWrite device slot)) := by
  refine AllCalls.bind (allCalls_left (findTokenForKeyslot_session device slot)) fun tokenId => ?_
  refine AllCalls.bind ?_ fun _ => AllCalls.bind (destroyKeyslot_issues (Or.inr rfl)) fun _ => trivial
  split_ifs
  · exact AllCalls.bind (setToken_issues (Or.inl ⟨_, rfl⟩)) fun _ => trivial
  · trivial

lemma opWipeSlot_issues (device passphrase unlockMethod pin : String) (slot : I32) :
    (opWipeSlot device passphrase unlockMethod pin slot).AllCalls
      (Cmd.Either (Cmd.ReadsOn device) (Cmd.WipeWrite device slot.val)) := by
  refine allCalls_runOp (AllCalls.bind (allCalls_left (getVolumeKey_reads _ _ _ _)) fun _ =>
    AllCalls.bind (allCalls_left (reads_of_looks (listKeyslots_looks device))) fun slots => ?_)
  split_ifs
  · trivial
  · exact either_reads (either_looks (wipeRest_issues device slot.val))

/-- The writes of an enrollment: keyslots and tokens added. -/
def Cmd.EnrollWrite (device : String) (c : Cmd) : Prop :=
  (∃ vk pw, c = Cmd.addByKey device vk pw)
    ∨ ∃ json, c = Cmd.tokenJsonSet device (TokenInput.add json)

/-- An enrollment with a token writes in two places, the keyslot and the token. -/
lemma enrollToken_issues {device : String} {prepare : Op Prepared}
    (hp : prepare.AllCalls (Cmd.ReadsOn device)) (unlockMethod unlockPin passphrase : String) :
    (enrollToken device unlockMethod unlockPin passphrase prepare).AllCalls
      (Cmd.Either (Cmd.ReadsOn device) (Cmd.EnrollWrite device)) :=
  AllCalls.bind (allCalls_left hp) fun _ =>
    AllCalls.bind (allCalls_left (getVolumeKey_reads _ _ _ _)) fun _ =>
      AllCalls.bind (either_reads (addKeyslotByVolumeKey_issues _ (Or.inl ⟨_, _, rfl⟩))) fun _ =>
        (either_reads (either_looks (storeToken_issues _ _ _))).mono fun _ =>
          Or.imp_right fun hw => Or.inr ⟨_, hw⟩

/-- The writes of a request. -/
def SlotRequest.Writes : SlotRequest → Cmd → Prop
  | SlotRequest.wipeSlot device _ _ _ slot => Cmd.WipeWrite device slot.val
  | SlotRequest.enrollPassphrase device _ _ _ _ => fun c => ∃ vk pw, c = Cmd.addByKey device vk pw
  | r => Cmd.EnrollWrite r.device

/-- **What a request can write**, everything else being reading. -/
lemma SlotRequest.body_issues (r : SlotRequest) :
    r.body.AllCalls (Cmd.Either (Cmd.ReadsOn r.device) r.Writes) := by
  cases r with
  | enrollFido2 device passphrase pin fido2Device unlockMethod unlockPin =>
      refine allCalls_runOp (AllCalls.bind
        (allCalls_left (reads_of_looks (alreadyEnrolled_looks device fido2Device))) fun enrolled => ?_)
      cases enrolled with
      | true => trivial
      | false => exact enrollToken_issues (reads_of_looks (prepareFido2_looks _ _)) _ _ _
  | enrollTpm2 device passphrase pin pcrs unlockMethod unlockPin =>
      exact allCalls_runOp (enrollToken_issues (reads_of_looks (prepareTpm2_looks _ _)) _ _ _)
  | enrollRecoveryKey device passphrase unlockMethod unlockPin =>
      exact allCalls_runOp (enrollToken_issues (reads_of_looks prepareRecoveryKey_looks) _ _ _)
  | enrollPassphrase device existing new unlockMethod unlockPin =>
      exact allCalls_runOp (AllCalls.bind (allCalls_left (getVolumeKey_reads _ _ _ _)) fun _ =>
        AllCalls.bind (either_reads (addKeyslotByVolumeKey_issues _ ⟨_, _, rfl⟩)) fun _ => trivial)
  | wipeSlot device passphrase unlockMethod pin slot => exact opWipeSlot_issues _ _ _ _ _

/-- Whatever it asks for, on which header: its device's. -/
lemma SlotRequest.body_touches (r : SlotRequest) : r.body.AllCalls (Cmd.TouchesOn r.device) := by
  refine r.body_issues.mono fun c hc => ?_
  rcases hc with hread | hw
  · exact Or.inl hread
  · cases r with
    | wipeSlot device passphrase unlockMethod pin slot =>
        rcases hw with ⟨id, rfl⟩ | rfl
        · exact Or.inr (Or.inr (Or.inl ⟨_, rfl⟩))
        · exact Or.inr (Or.inr (Or.inr ⟨_, rfl⟩))
    | enrollPassphrase device existing new unlockMethod unlockPin =>
        obtain ⟨vk, pw, rfl⟩ := hw
        exact Or.inr (Or.inl ⟨_, _, rfl⟩)
    | _ =>
        rcases hw with ⟨vk, pw, rfl⟩ | ⟨json, rfl⟩
        · exact Or.inr (Or.inl ⟨_, _, rfl⟩)
        · exact Or.inr (Or.inr (Or.inl ⟨_, rfl⟩))

/-! ## Where a thread stands in `run_op` -/

/-- What is left of the body is left of the operation. -/
lemma Residual.runOp {p q : Op Triple} (h : Residual p q) :
    Residual (LuksEnroll.runOp p) (LuksEnroll.runOp q) := h.attempt.bind _

/-- A command pending in a wrapped body is pending in the body. -/
lemma Residual.call_of_runOp {body : Op Triple} {c : Cmd} {k : Reply c → Op Triple}
    (h : Residual (LuksEnroll.runOp body) (Prog.call c k)) :
    ∃ k', Residual body (Prog.call c k') ∧ Prog.call c k = LuksEnroll.runOp (Prog.call c k') := by
  rcases Residual.call_of_bind h with ⟨k₁, hk₁, rfl⟩ | ⟨x, -, hx⟩
  · obtain ⟨k', hk', rfl⟩ := Residual.call_of_attempt hk₁
    exact ⟨k', hk', rfl⟩
  · cases x <;> cases hx

/-! ## Steps of the pool -/

/-- Before the first step nothing has been answered. -/
lemma started_requests (w : World) : Started reqs (Requests reqs w) := fun _ => Residual.refl _

/-- A step leaves every thread somewhere in its own body. -/
lemma started_step {p : RequestPool n} (hp : Started reqs p) (i : Fin n) (o : Oracle) :
    Started reqs (p.step (handlers n) i o) := by
  rcases Pool.step_cases (handlers n) p i o with hstep | ⟨c, k, hi, hthreads, -⟩
  · rw [hstep]
    exact hp
  · intro j
    rw [hthreads]
    by_cases hj : j = i
    · subst hj
      rw [Function.update_self]
      exact Residual.answer (hi ▸ hp j) _
    · rw [Function.update_of_ne hj]
      exact hp j

end LuksEnroll
