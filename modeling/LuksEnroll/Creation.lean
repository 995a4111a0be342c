import LuksEnroll.Library.Sections
import LuksEnroll.Possession
import LuksEnroll.Service

/-!
# Two creates at once

`CreateEncryptedImage` refuses a path that exists, and `CreateEncryptedImageFd` a file that is not
empty: "never reformat in place".  Both look first and create, size and format later, in separate
calls, and nothing is held in between.  So two requests for one path, or for one file, can both find
it free; the second then truncates and formats what the first has already reported as created
(`created_twice`).

What the guards do give: as long as no request passes its guard while another is past its own and
not finished, at most one of them succeeds, and what it made stays (`one_create_succeeds`).

The two creates are run by the threads of a pool with one state, the service's world and the sizes of its
files.  `Looks` and `Acts` separate what a request does before its guard and past it, and the pool's rule
for sections that come one after another (`Sections`) gives the theorem.
-/

namespace LuksEnroll

open Library
open Prog (AllCalls)

/-! ## Commands

The commands of an operation, and two that the descriptor's create makes itself: it asks for the
length of the file and changes it.
-/

/-- The commands of a create: those of an operation, and two on a descriptor. -/
inductive CreateCmd : Type
  | op (c : Cmd)
  | fstat (device : String)
  | ftruncate (device : String) (size : ℕ)

/-- The answers: those of the operations, the size of a file, and whether it could be changed. -/
abbrev CreateReply : CreateCmd → Type
  | CreateCmd.op c => Reply c
  | CreateCmd.fstat _ => Option ℕ
  | CreateCmd.ftruncate _ _ => Except String Unit

/-- A create, from its guard to its answer. -/
abbrev CreateOp (α : Type) := Prog CreateCmd CreateReply SvcError α

/-- An operation as a part of a request. -/
def lift {α : Type} : Op α → CreateOp α
  | Prog.ret a => Prog.ret a
  | Prog.fail e => Prog.fail (SvcError.failed e)
  | Prog.call c k => Prog.call (CreateCmd.op c) fun r => lift (k r)

/-! ## Requests

Both creates up to their guard, and what they do past it (`act`).  The order of checks is that of
the source.
-/

/-- `(ok, keyslot, stderr)`. -/
abbrev CreateAnswer := Bool × ℤ × String

/-- The blocking part of `create_encrypted_image_fd`. -/
def sizeAndCreate (device : String) (sizeMb : ℤ) (passphrase : String) : CreateOp CreateAnswer := do
  match ← Prog.perform (CreateCmd.ftruncate device (sizeMb.toNat * 1024 * 1024)) with
  | Except.error _ => return (false, -1, "Operation failed")
  | Except.ok _ => lift (opCreateImageFd device passphrase)

/-- The two requests that create an image. -/
inductive CreateRequest : Type
  /-- `CreateEncryptedImage` with its path resolved. -/
  | path (realPath : String) (sizeMb : ℤ) (passphrase : String) (owner : Option (ℕ × ℕ))
  /-- `CreateEncryptedImageFd`; `device` is the path of the descriptor. -/
  | fd (d : Descriptor) (device : String) (sizeMb : ℤ) (passphrase : String)

namespace CreateRequest

/-- The path that the image is created and formatted under. -/
def device : CreateRequest → String
  | path realPath _ _ _ => realPath
  | fd _ device _ _ => device

/-- The passphrase for it. -/
def passphrase : CreateRequest → String
  | path _ _ passphrase _ => passphrase
  | fd _ _ _ passphrase => passphrase

/-- The handlers, past the gate. -/
def body : CreateRequest → CreateOp CreateAnswer
  | path realPath sizeMb passphrase owner =>
      match owner with
      | none => return (false, -1, "Operation failed")
      | some owner => lift (opCreateEncryptedImage realPath sizeMb passphrase (some owner))
  | fd d device sizeMb passphrase => do
      Prog.ofExcept (d.checkFd true true)
      if maxStringLen < passphrase.utf8ByteSize then
        Prog.fail (SvcError.invalidArgs "Parameter exceeds maximum length")
      else if 1 ≤ sizeMb ∧ sizeMb ≤ 8192 then
        -- `create_fd_is_empty`
        if (← Prog.perform (CreateCmd.fstat device)) = some 0 then
          sizeAndCreate device sizeMb passphrase
        else return (false, -1, "A file already exists at this path")
      else return (false, -1, "size_mb must be between 1 and 8192")

/-- What a request does past its guard.  With a size out of range there is no such thing. -/
def act : CreateRequest → CreateOp CreateAnswer
  | path realPath sizeMb passphrase owner =>
      lift (runCreate (createContainer realPath sizeMb passphrase owner))
  | fd _ device sizeMb passphrase =>
      if 1 ≤ sizeMb ∧ sizeMb ≤ 8192 then sizeAndCreate device sizeMb passphrase
      else return (false, -1, "size_mb must be between 1 and 8192")

end CreateRequest

/-! ## State

The world, the length of every file, and for every file which request has made a volume of it.
-/

/-- The world and the lengths of its files.

`made` is a ghost: the request whose format was the last to rewrite an object, and the header that
it wrote. -/
structure Creating where
  world : World
  size : ℕ → ℕ
  made : ℕ → Option (ℕ × Header)

namespace Creating

/-- Time passes. -/
def later (s : Creating) (d : ℕ) : Creating :=
  { s with world := { s.world with now := s.world.now + d } }

/-- The lengths after a command: `File::create` leaves a file empty, and a write beyond the end of one
makes it longer. -/
def sizeAfter (s : Creating) (o : Oracle) (w : World) : Cmd → ℕ → ℕ
  | Cmd.createFile path =>
      match o.fault, w.fs.node path with
      | none, some i =>
          if w.fs.kind i = FileKind.regular then Function.update s.size i 0 else s.size
      | _, _ => s.size
  | Cmd.writeAll path offset bytes =>
      match o.fault, w.fs.node path with
      | none, some i => Function.update s.size i (max (s.size i) (offset + bytes.length))
      | _, _ => s.size
  | _ => s.size

/-- Who made what after a command: a format makes a header, or spoils what was there, as truncating
and raw writes do. -/
def madeAfter (s : Creating) (who : ℕ) (o : Oracle) (w : World) : Cmd → ℕ → Option (ℕ × Header)
  | Cmd.createFile path =>
      match o.fault, w.fs.node path with
      | none, some i =>
          if w.fs.kind i = FileKind.regular then Function.update s.made i none else s.made
      | _, _ => s.made
  | Cmd.writeAll path _ _ =>
      match w.fs.node path with
      | none => s.made
      | some i => Function.update s.made i none
  | Cmd.format path _ =>
      match w.fs.node path with
      | none => s.made
      | some i =>
          Function.update s.made i
            (if o.fault.isNone then (w.luks i).map fun h => (who, h) else none)
  | _ => s.made

/-- `ftruncate`: a file that gets shorter may lose its header. -/
def truncate (s : Creating) (i size : ℕ) (flag : Bool) : Creating where
  world := if size < s.size i ∧ flag then
    { s.world with luks := Function.update s.world.luks i none } else s.world
  size := Function.update s.size i size
  made := if size < s.size i then Function.update s.made i none else s.made

/-- The answer to a command, time having passed. -/
def answer (who : ℕ) : (c : CreateCmd) → Oracle → Creating → CreateReply c × Creating
  | CreateCmd.op c, o, s =>
      ((LuksEnroll.answer (some who) c o s.world).1, {
        world := (LuksEnroll.answer (some who) c o s.world).2
        size := s.sizeAfter o (LuksEnroll.answer (some who) c o s.world).2 c
        made := s.madeAfter who o (LuksEnroll.answer (some who) c o s.world).2 c })
  | CreateCmd.fstat device, o, s =>
      (if o.fault.isSome then none else (s.world.fs.node device).map s.size, s)
  | CreateCmd.ftruncate device size, o, s =>
      match o.fault, s.world.fs.node device with
      | some e, _ => (Except.error e, s)
      | none, none => (Except.error o.text, s)
      | none, some i => (Except.ok (), s.truncate i size o.flag)

end Creating

/-- Time passes, then the command is answered. -/
def createExec (who : ℕ) : Handler CreateCmd CreateReply Oracle Creating :=
  fun c o s => Creating.answer who c o (s.later o.elapsed)

/-- Requests side by side, all of them at their start. -/
def Creates {n : ℕ} (reqs : Fin n → CreateRequest) (w : World) (size : ℕ → ℕ) :
    Pool (Fin n) CreateCmd CreateReply SvcError CreateAnswer Creating where
  threads := fun i => (reqs i).body
  state := ⟨w, size, fun _ => none⟩

/-- The threads share one state, and each is its own creator. -/
def createHandlers (n : ℕ) : Fin n → Handler CreateCmd CreateReply Oracle Creating :=
  fun i => createExec i.val

/-! ## Looking

A request looks up to its guard.  Nothing that it asks for changes the state, and the guard's answer
is the one of the moment at which it looked.
-/

/-- The commands by which a request looks whether it may create. -/
def CreateRequest.Looks : CreateRequest → CreateCmd → Prop
  | CreateRequest.path realPath _ _ _, c =>
      c = CreateCmd.op (Cmd.pathExists realPath) ∨ c = CreateCmd.op (Cmd.isFile realPath)
  | CreateRequest.fd _ device _ _, c => c = CreateCmd.fstat device

/-- The answers that let it go on: nothing exists, or the file is empty. -/
def Passes : (c : CreateCmd) → CreateReply c → Prop
  | CreateCmd.op (Cmd.pathExists _), found => found = false
  | CreateCmd.fstat _, size => size = some 0
  | _, _ => False

/-- The answer says that the image was created. -/
def Succeeds (a : CreateAnswer) : Prop := a.1 = true

/-- A request looks first, and ends there or goes on to act. -/
lemma before_body (r : CreateRequest) : r.act.Before r.Looks Passes Succeeds r.body := by
  cases r with
  | path realPath sizeMb passphrase owner =>
      cases owner with
      | none => exact Bool.false_ne_true
      | some owner =>
          refine ⟨Or.inl rfl, fun found => ?_⟩
          cases found with
          | true =>
              refine Or.inl ⟨Or.inr rfl, fun file => Or.inl ?_⟩
              cases file with
              | true => exact Bool.false_ne_true
              | false => exact Bool.false_ne_true
          | false =>
              by_cases hunder : underHomeOrTmp realPath = true
              · refine Or.inr ⟨rfl, ?_⟩
                show lift (if underHomeOrTmp realPath = true then _ else _) = _
                rw [if_pos hunder]
                rfl
              · refine Or.inl ?_
                show Prog.Before _ _ _ _ (lift (if underHomeOrTmp realPath = true then _ else _))
                rw [if_neg hunder]
                exact Bool.false_ne_true
  | fd d device sizeMb passphrase =>
      rw [CreateRequest.body]
      cases d.checkFd true true with
      | error e => trivial
      | ok u =>
          show Prog.Before _ _ _ _ (if maxStringLen < passphrase.utf8ByteSize then _
            else if 1 ≤ sizeMb ∧ sizeMb ≤ 8192 then _ else _)
          split_ifs with hlen hsize
          · trivial
          · refine ⟨rfl, fun size => ?_⟩
            by_cases hempty : size = some 0
            · refine Or.inr ⟨hempty, ?_⟩
              show (if size = some 0 then _ else _) = _
              rw [if_pos hempty, CreateRequest.act, if_pos hsize]
            · refine Or.inl ?_
              show Prog.Before _ _ _ _ (if size = some 0 then _ else _)
              rw [if_neg hempty]
              exact Bool.false_ne_true
          · exact Bool.false_ne_true

/-! ## Waiting

Time may pass before and between commands, and nothing depends on it here.
-/

namespace Creating

/-- Nothing has happened but that time has passed. -/
def Waits (s t : Creating) : Prop := ∃ d, t = s.later d

lemma later_later (s : Creating) (d e : ℕ) : (s.later d).later e = s.later (d + e) := by
  simp [later, Nat.add_assoc]

lemma Waits.refl (s : Creating) : s.Waits s := ⟨0, rfl⟩

lemma Waits.trans {s t u : Creating} (hst : s.Waits t) (htu : t.Waits u) : s.Waits u := by
  obtain ⟨d, rfl⟩ := hst
  obtain ⟨e, rfl⟩ := htu
  exact ⟨d + e, later_later s d e⟩

end Creating

/-- A guard only looks, so that time passes at most. -/
lemma looks_waits {r : CreateRequest} {who : ℕ} {c : CreateCmd} (hc : r.Looks c) (o : Oracle)
    (s : Creating) : s.Waits (createExec who c o s).2 := by
  cases r with
  | path realPath sizeMb passphrase owner =>
      rcases hc with rfl | rfl
      · exact ⟨o.elapsed, rfl⟩
      · exact ⟨o.elapsed, rfl⟩
  | fd d device sizeMb passphrase =>
      obtain rfl : c = CreateCmd.fstat device := hc
      exact ⟨o.elapsed, rfl⟩

/-- How long a call took does not enter into its answer. -/
lemma answer_elapsed (who : ℕ) (c : CreateCmd) (o : Oracle) (s : Creating) (d : ℕ) :
    Creating.answer who c { o with elapsed := d } s = Creating.answer who c o s := by
  cases c with
  | op c =>
      have hanswer : ∀ w : World,
          LuksEnroll.answer (some who) c { o with elapsed := d } w
            = LuksEnroll.answer (some who) c o w := by
        intro w
        cases c <;> rfl
      rw [Creating.answer, Creating.answer, hanswer]
      cases c <;> rfl
  | fstat device => rfl
  | ftruncate device size => rfl

/-- A call that comes later is a call that took longer. -/
lemma createExec_later (who : ℕ) (c : CreateCmd) (o : Oracle) (s : Creating) (d : ℕ) :
    createExec who c o (s.later d) = createExec who c { o with elapsed := d + o.elapsed } s := by
  rw [createExec, createExec, Creating.later_later]
  exact (answer_elapsed who c o (s.later (d + o.elapsed)) (d + o.elapsed)).symm

/-- What a program gets done, it gets done later as well. -/
lemma wp_later {α : Type} {who : ℕ} {q : CreateOp α} {Q : Except SvcError α → Creating → Prop}
    (hQ : ∀ x s d, Q x s → Q x (s.later d)) {s : Creating} (d : ℕ)
    (hq : q.wp (createExec who) (fun _ => True) Q s) :
    q.wp (createExec who) (fun _ => True) Q (s.later d) := by
  cases q with
  | ret a => exact hQ _ _ _ hq
  | fail e => exact hQ _ _ _ hq
  | call c k =>
      intro o _
      rw [createExec_later]
      exact hq _ trivial

/-! ## Acting

What a create makes when it says yes: the header that the file then has, with the passphrase it was
given or with none.  The lemmas go down the functions of the source to the raw write.
-/

/-- A container that a request has made: the last to rewrite the file was its format, and the header
is the one it wrote, as it was or with the keyslot of the passphrase.  Without a passphrase, the key
in the cache is that header's. -/
def Made (who : ℕ) (device passphrase : String) (slot : ℤ) (s : Creating) : Prop :=
  ∃ obj formatted h, s.world.fs.node device = some obj ∧ 0 < s.size obj
    ∧ s.made obj = some (who, formatted) ∧ s.world.luks obj = some h
    ∧ (passphrase = "" → h = formatted ∧
      ∃ t, s.world.cache (s.world.fs.cacheKey device) = some (h.volumeKey, t))
    ∧ (passphrase ≠ "" → ∃ (o : Oracle) (i : ℕ), slot = i ∧
      formatted.addByKey (some who) o none (asBytes passphrase) = Except.ok (i, h))

/-- The commands of an operation, in the state of a create. -/
def opExec (who : ℕ) : Handler Cmd Reply Oracle Creating :=
  fun c o s => createExec who (CreateCmd.op c) o s

/-- What holds of an operation holds of it as a part of a create. -/
lemma wp_lift {α ω σ : Type} {h : Handler CreateCmd CreateReply ω σ} {A : ω → Prop} {p : Op α}
    {Q : Except SvcError α → σ → Prop} {s : σ}
    (hp : p.wp (fun c o s => h (CreateCmd.op c) o s) A
      (fun x t => Q (x.mapError SvcError.failed) t) s) : (lift p).wp h A Q s := by
  induction p generalizing s with
  | ret a => exact hp
  | fail e => exact hp
  | call c k ih => exact fun o ho => ih _ (hp o ho)

lemma allCalls_lift {α : Type} {P : CreateCmd → Prop} {p : Op α}
    (hp : p.AllCalls fun c => P (CreateCmd.op c)) : (lift p).AllCalls P := by
  induction p with
  | ret a => trivial
  | fail e => trivial
  | call c k ih => exact ⟨hp.1, fun r => ih r (hp.2 r)⟩

section

variable {who : ℕ} {A : Oracle → Prop} {device passphrase : String} {obj : ℕ} {s : Creating}

/-- Only a success matters. -/
abbrev OnOk {α : Type} (Q : α → Creating → Prop) : Except String α → Creating → Prop :=
  fun x t => ∀ a, x = Except.ok a → Q a t

/-- A command whose failure is worded: only its success goes on. -/
lemma onOk_ask_orFail {α β : Type} {c : Cmd} {r : Reply c → Except String α}
    {word : String → String} {k : α → Op β} {Q : β → Creating → Prop}
    (hok : ∀ o a, r (opExec who c o s).1 = Except.ok a →
      (k a).wp (opExec who) A (OnOk Q) (opExec who c o s).2) :
    ((ask c).bind fun x => (orFail (r x) word).bind k).wp (opExec who) A (OnOk Q) s := by
  refine wp_ask_orFail (fun o a _ hr => hok o a hr) (fun o e _ _ => ?_)
  intro a ha
  cases ha

/-- A command whose failure is worded, at the end. -/
lemma onOk_ask_orFail_last {α : Type} {c : Cmd} {r : Reply c → Except String α}
    {word : String → String} {Q : α → Creating → Prop}
    (hok : ∀ o a, r (opExec who c o s).1 = Except.ok a → Q a (opExec who c o s).2) :
    ((ask c).bind fun x => orFail (r x) word).wp (opExec who) A (OnOk Q) s := by
  refine wp_ask_orFail_last (fun o a _ hr => ?_) (fun o e _ _ => ?_)
  · intro b hb
    rw [← Except.ok.inj hb]
    exact hok o a hr
  · intro a ha
    cases ha

lemma onOk_bind {α β : Type} {p : Op α} {f : α → Op β} {Q : β → Creating → Prop}
    (hp : p.wp (opExec who) A (OnOk fun a t => (f a).wp (opExec who) A (OnOk Q) t) s) :
    (p.bind f).wp (opExec who) A (OnOk Q) s := by
  refine Prog.wp_bind (Prog.wp_mono (fun x t hx => ?_) hp)
  cases x with
  | ok a => exact hx a rfl
  | error e => exact fun b hb => by cases hb

lemma format_made {o : Oracle} {vk : Option VolumeKey} {u : Unit}
    (hnode : s.world.fs.node device = some obj)
    (hok : (opExec who (Cmd.format device vk) o s).1 = Except.ok u) :
    (opExec who (Cmd.format device vk) o s).2.world.fs = s.world.fs
      ∧ (opExec who (Cmd.format device vk) o s).2.size = s.size
      ∧ ∃ h, (opExec who (Cmd.format device vk) o s).2.made obj = some (who, h)
        ∧ (opExec who (Cmd.format device vk) o s).2.world.luks obj = some h
        ∧ ∀ v, vk = some v → h.volumeKey = v := by
  have hnode' : (s.later o.elapsed).world.fs.node device = some obj := hnode
  simp only [opExec, createExec, Creating.answer, LuksEnroll.answer, World.format, hnode'] at hok ⊢
  cases hfault : o.fault with
  | some e => simp [hfault] at hok
  | none =>
      refine ⟨rfl, rfl, Header.fresh (vk.getD ⟨o.random 64⟩), ?_, ?_, ?_⟩
      · simp [Creating.madeAfter, hnode', hfault]
      · simp
      · rintro v rfl
        rfl

lemma addByKey_made {o : Oracle} {pw : Bytes} {i : ℕ} {h : Header}
    (hnode : s.world.fs.node device = some obj) (hluks : s.world.luks obj = some h)
    (hok : (opExec who (Cmd.addByKey device none pw) o s).1 = Except.ok i) :
    (opExec who (Cmd.addByKey device none pw) o s).2.world.fs = s.world.fs
      ∧ (opExec who (Cmd.addByKey device none pw) o s).2.size = s.size
      ∧ (opExec who (Cmd.addByKey device none pw) o s).2.made = s.made
      ∧ ∃ h', (opExec who (Cmd.addByKey device none pw) o s).2.world.luks obj = some h'
        ∧ h.addByKey (some who) o none pw = Except.ok (i, h') := by
  have hnode' : (s.later o.elapsed).world.fs.node device = some obj := hnode
  have hluks' : (s.later o.elapsed).world.luks obj = some h := hluks
  simp only [opExec, createExec, Creating.answer, LuksEnroll.answer, World.update, hnode',
    hluks'] at hok ⊢
  cases hfault : o.fault with
  | some e => simp [hfault] at hok
  | none =>
      cases hadd : h.addByKey (some who) o none pw with
      | error e => simp [hfault, hadd] at hok
      | ok r =>
          obtain ⟨i', h'⟩ := r
          simp only [hfault, hadd, Except.ok.injEq] at hok
          subst hok
          exact ⟨rfl, rfl, rfl, h', Function.update_self .., rfl⟩

/-- A format without a passphrase makes the image. -/
lemma formatLuks2Keyless_made (hnode : s.world.fs.node device = some obj) (hsize : 0 < s.size obj)
    (slot : ℤ) :
    (formatLuks2Keyless device KeyslotsArea.default).wp (opExec who) A
      (OnOk fun _ t => Made who device "" slot t) s := by
  intro o₀ _
  generalize (opExec who (Cmd.osRandom 64) o₀ s).1 = vk
  refine onOk_ask_orFail (c := Cmd.init device) (r := id) fun o₁ _ _ => ?_
  refine onOk_ask_orFail (c := Cmd.format device (some ⟨vk⟩)) (r := id) fun o₂ u hok => ?_
  intro o₃ _ _ _
  obtain ⟨hfs, hsz, h, hmade, hluks, hkey⟩ :=
    format_made (s := (s.later o₀.elapsed).later o₁.elapsed) hnode hok
  refine ⟨obj, h, h, ?_, ?_, hmade, hluks, fun _ => ⟨rfl, ?_⟩, fun hne => absurd rfl hne⟩
  · exact (congrArg (fun fs => FileSystem.node fs device) hfs).trans hnode
  · exact lt_of_lt_of_eq hsize (congrFun hsz obj).symm
  · rw [hkey _ rfl]
    exact ⟨_, Function.update_self ..⟩

/-- A format with a passphrase makes the image. -/
lemma formatLuks2_made (hnode : s.world.fs.node device = some obj) (hsize : 0 < s.size obj)
    (hne : passphrase ≠ "") :
    (formatLuks2 device passphrase KeyslotsArea.default).wp (opExec who) A
      (OnOk fun (i : ℕ) t => Made who device passphrase (i : ℤ) t) s := by
  refine onOk_ask_orFail (c := Cmd.init device) (r := id) fun o₁ _ _ => ?_
  refine onOk_ask_orFail (c := Cmd.format device none) (r := id) fun o₂ u hok => ?_
  obtain ⟨hfs, hsz, formatted, hmade, hluks, -⟩ :=
    format_made (s := (opExec who (Cmd.init device) o₁ s).2) hnode hok
  have hnode₂ := (congrArg (fun fs => FileSystem.node fs device) hfs).trans hnode
  refine onOk_ask_orFail_last (c := Cmd.addByKey device none (asBytes passphrase)) (r := id)
    fun o₃ i hi => ?_
  obtain ⟨hfs₃, hsz₃, hmade₃, h, hluks₃, hadd⟩ := addByKey_made hnode₂ hluks hi
  refine ⟨obj, formatted, h, ?_, ?_, ?_, hluks₃, fun h' => absurd h' hne, fun _ => ⟨o₃, i, rfl, hadd⟩⟩
  · rw [hfs₃]
    exact hnode₂
  · rw [hsz₃]
    exact lt_of_lt_of_eq hsize (congrFun hsz obj).symm
  · rw [hmade₃]
    exact hmade

lemma formatContainer_made (hnode : s.world.fs.node device = some obj) (hsize : 0 < s.size obj) :
    (formatContainer device passphrase).wp (opExec who) A (OnOk (Made who device passphrase)) s := by
  by_cases hempty : passphrase = ""
  · subst hempty
    rw [formatContainer, if_pos rfl]
    refine onOk_bind (Prog.wp_mono (fun x t hx => ?_) (formatLuks2Keyless_made hnode hsize (-1)))
    intro u hu slot hslot
    obtain rfl := Except.ok.inj hslot
    exact hx u hu
  · rw [formatContainer, if_neg hempty]
    refine onOk_bind (Prog.wp_mono (fun x t hx => ?_) (formatLuks2_made hnode hsize hempty))
    intro i hi slot hslot
    obtain rfl := Except.ok.inj hslot
    exact hx i hi

/-- A file that something was written to is there, and not empty. -/
lemma writeAll_made {o : Oracle} {offset : ℕ} {b : UInt8} {u : Unit}
    (hok : (opExec who (Cmd.writeAll device offset [b]) o s).1 = Except.ok u) :
    ∃ i, (opExec who (Cmd.writeAll device offset [b]) o s).2.world.fs.node device = some i
      ∧ 0 < (opExec who (Cmd.writeAll device offset [b]) o s).2.size i := by
  simp only [opExec, createExec, Creating.answer, LuksEnroll.answer, World.write] at hok ⊢
  cases hnode : (s.later o.elapsed).world.fs.node device with
  | none => simp [hnode] at hok
  | some i =>
      cases hfault : o.fault with
      | some e => simp [hnode, Oracle.unlessFault, hfault] at hok
      | none => exact ⟨i, hnode, by simp [Creating.sizeAfter, World.lose, hnode, hfault]⟩

/-- Handing the file over does not touch what is in it. -/
lemma Made.chown {slot : ℤ} {o : Oracle} {path : String} {uid gid : ℕ}
    (hs : Made who device passphrase slot s) :
    Made who device passphrase slot (opExec who (Cmd.chown path uid gid) o s).2 := by
  simp only [opExec, createExec, Creating.answer, LuksEnroll.answer]
  split
  · exact hs
  · exact hs

/-- Creating, formatting and handing over makes the image. -/
lemma createContainer_made (sizeMb : ℤ) (owner : Option (ℕ × ℕ)) :
    (createContainer device sizeMb passphrase owner).wp (opExec who) A
      (OnOk (Made who device passphrase)) s := by
  refine onOk_bind ?_
  rw [createImageFile]
  split_ifs with hsize
  · refine onOk_ask_orFail (c := Cmd.createFile device) (r := id) fun o₁ _ _ => ?_
    refine onOk_ask_orFail (c := Cmd.seek device _) (r := id) fun o₂ _ _ => ?_
    refine onOk_ask_orFail_last (c := Cmd.writeAll device _ [0]) (r := id) fun o₃ _ hok => ?_
    obtain ⟨i, hnode, hpos⟩ := writeAll_made hok
    refine onOk_bind (Prog.wp_mono (fun x t hx => ?_) (formatContainer_made hnode hpos))
    intro slot hslot
    have hmade := hx slot hslot
    cases owner with
    | none =>
        intro slot' h
        obtain rfl := Except.ok.inj h
        exact hmade
    | some ids =>
        refine onOk_bind (onOk_ask_orFail_last (c := Cmd.chown device ids.1 ids.2) (r := id)
          fun o' u' _ => ?_)
        intro slot' h
        obtain rfl := Except.ok.inj h
        exact hmade.chown
  · exact fun a ha => by cases ha

/-- A create that says so has made the container. -/
lemma runCreate_made {body : Op ℤ}
    (hb : body.wp (opExec who) A (OnOk (Made who device passphrase)) s) :
    (lift (runCreate body)).wp (createExec who) A
      (Prog.Achieves Succeeds fun a => Made who device passphrase a.2.1) s := by
  refine wp_lift (Prog.wp_bind (Prog.wp_attempt (Prog.wp_mono (fun x t hx => ?_) hb)))
  cases x with
  | ok slot =>
      intro a ha _
      obtain rfl := Except.ok.inj ha
      exact hx slot rfl
  | error e =>
      intro a ha hsucc
      obtain rfl := Except.ok.inj ha
      exact absurd hsucc Bool.false_ne_true

lemma ftruncate_made {o : Oracle} {size : ℕ} {u : Unit} (hpos : 0 < size)
    (hok : (createExec who (CreateCmd.ftruncate device size) o s).1 = Except.ok u) :
    ∃ i, (createExec who (CreateCmd.ftruncate device size) o s).2.world.fs.node device = some i
      ∧ 0 < (createExec who (CreateCmd.ftruncate device size) o s).2.size i := by
  simp only [createExec, Creating.answer] at hok ⊢
  cases hfault : o.fault with
  | some e => simp [hfault] at hok
  | none =>
      cases hnode : (s.later o.elapsed).world.fs.node device with
      | none => simp [hfault, hnode] at hok
      | some i =>
          refine ⟨i, ?_, ?_⟩
          · simp only [Creating.truncate]
            split_ifs
            · exact hnode
            · exact hnode
          · simpa [Creating.truncate] using hpos

/-- **An act, where nobody interferes.** -/
lemma act_made (r : CreateRequest) (who : ℕ) (s : Creating) :
    r.act.wp (createExec who) (fun _ => True)
      (Prog.Achieves Succeeds fun a => Made who r.device r.passphrase a.2.1) s := by
  cases r with
  | path realPath sizeMb passphrase owner => exact runCreate_made (createContainer_made sizeMb owner)
  | fd d device sizeMb passphrase =>
      rw [CreateRequest.act]
      split_ifs with hsize
      · intro o _
        have hpos : 0 < sizeMb.toNat * 1024 * 1024 := by omega
        cases hok : (createExec who (CreateCmd.ftruncate device (sizeMb.toNat * 1024 * 1024)) o
            s).1 with
        | error e =>
            intro a ha hsucc
            obtain rfl := Except.ok.inj ha
            exact absurd hsucc Bool.false_ne_true
        | ok u =>
            obtain ⟨i, hnode, hlen⟩ := ftruncate_made hpos hok
            exact runCreate_made (formatContainer_made hnode hlen)
      · intro a ha hsucc
        obtain rfl := Except.ok.inj ha
        exact absurd hsucc Bool.false_ne_true

end

/-! ## One file

All requests are for one path, or for one file.  What a request past its guard does to it shuts the
guard for everybody else.
-/

/-- The requests are all for one path, or all on descriptors of one file. -/
def Shared {n : ℕ} (reqs : Fin n → CreateRequest) (w : World) : Prop :=
  (∃ realPath, ∀ i, ∃ sizeMb passphrase owner,
      reqs i = CreateRequest.path realPath sizeMb passphrase owner)
    ∨ ∃ obj, ∀ i, ∃ d device sizeMb passphrase,
      reqs i = CreateRequest.fd d device sizeMb passphrase ∧ w.fs.node device = some obj

/-- What a request issues past its guard. -/
def CreateRequest.Acts : CreateRequest → CreateCmd → Prop
  | CreateRequest.path realPath _ _ _, c =>
      (∃ c', c = CreateCmd.op c' ∧ c'.FormatsAt realPath True)
        ∨ (c = CreateCmd.op (Cmd.createFile realPath)
          ∨ (∃ offset, c = CreateCmd.op (Cmd.seek realPath offset))
          ∨ ∃ offset bytes, c = CreateCmd.op (Cmd.writeAll realPath offset bytes))
        ∨ ∃ uid gid, c = CreateCmd.op (Cmd.chown realPath uid gid)
  | CreateRequest.fd _ device _ _, c =>
      (∃ c', c = CreateCmd.op c' ∧ c'.FormatsAt device True)
        ∨ ∃ size, c = CreateCmd.ftruncate device size

/-- Past its guard a request does nothing else. -/
lemma act_issues (r : CreateRequest) : r.act.AllCalls r.Acts := by
  cases r with
  | path realPath sizeMb passphrase owner =>
      refine allCalls_lift (runCreate_allCalls ?_)
      refine AllCalls.bind ?_ fun _ => AllCalls.bind
        ((formatContainer_formats fun _ => trivial).mono fun c hc => Or.inl ⟨c, rfl, hc⟩) fun _ =>
        AllCalls.bind ?_ fun _ => trivial
      · exact createImageFile_allCalls (Or.inr (Or.inl (Or.inl rfl)))
          (fun offset => Or.inr (Or.inl (Or.inr (Or.inl ⟨offset, rfl⟩))))
          fun offset bytes => Or.inr (Or.inl (Or.inr (Or.inr ⟨offset, bytes, rfl⟩)))
      · cases owner with
        | none => trivial
        | some ids =>
            exact AllCalls.bind (allCalls_ask.mpr (Or.inr (Or.inr ⟨_, _, rfl⟩))) fun _ =>
              allCalls_orFail _ _
  | fd d device sizeMb passphrase =>
      rw [CreateRequest.act]
      split_ifs
      · refine ⟨Or.inr ⟨_, rfl⟩, fun x => ?_⟩
        cases x with
        | error e => trivial
        | ok u =>
            exact allCalls_lift (runCreate_allCalls
              ((formatContainer_formats fun _ => trivial).mono fun c hc => Or.inl ⟨c, rfl, hc⟩))
      · trivial

lemma CreateRequest.Acts.not_looks {r : CreateRequest} {c : CreateCmd} (hc : r.Acts c) :
    ¬ r.Looks c := by
  cases r with
  | path realPath sizeMb passphrase owner =>
      rcases hc with ⟨c', rfl, hc'⟩ | (rfl | ⟨offset, rfl⟩ | ⟨offset, bytes, rfl⟩) | ⟨uid, gid, rfl⟩
      · rintro (h | h)
        · exact (CreateCmd.op.inj h ▸ hc' : (Cmd.pathExists realPath).FormatsAt realPath True)
        · exact (CreateCmd.op.inj h ▸ hc' : (Cmd.isFile realPath).FormatsAt realPath True)
      · simp [CreateRequest.Looks]
      · simp [CreateRequest.Looks]
      · simp [CreateRequest.Looks]
      · simp [CreateRequest.Looks]
  | fd d device sizeMb passphrase =>
      rcases hc with ⟨c', rfl, -⟩ | ⟨size, rfl⟩
      · simp [CreateRequest.Looks]
      · simp [CreateRequest.Looks]

/-- Formatting leaves the file system as it is. -/
lemma formatsAt_fs {who : ℕ} {device : String} {c : Cmd} (hc : c.FormatsAt device True) (o : Oracle)
    (s : Creating) : (opExec who c o s).2.world.fs = s.world.fs := by
  cases c with
  | format d vk =>
      obtain ⟨luks, hluks⟩ := (s.later o.elapsed).world.format_stored o d vk
      have hfs := congrArg World.fs hluks
      exact hfs
  | addByKey d vk pw =>
      obtain ⟨luks, hluks⟩ := (s.later o.elapsed).world.update_stored d o fun h =>
        h.addByKey (some who) o vk pw
      have hfs := congrArg World.fs hluks
      exact hfs
  | init d => rfl
  | cacheInsert d vk => rfl
  | setMetadataSize => rfl
  | osRandom k => rfl
  | _ => exact hc.elim

section

variable {n : ℕ} {reqs : Fin n → CreateRequest}

/-- What the requests share is read off the file system. -/
lemma Shared.of_fs {w w' : World} (hfs : w'.fs = w.fs) (hw : Shared reqs w) : Shared reqs w' := by
  rcases hw with hpath | ⟨obj, hfd⟩
  · exact Or.inl hpath
  · refine Or.inr ⟨obj, fun i => ?_⟩
    rw [hfs]
    exact hfd i

/-- Acting leaves the requests on one path, or on one file. -/
lemma shared_act {i : Fin n} {c : CreateCmd} (hc : (reqs i).Acts c) (o : Oracle) {s : Creating}
    (hs : Shared reqs s.world) : Shared reqs (createExec i.val c o s).2.world := by
  rcases hs with hpath | ⟨obj, hfd⟩
  · exact Or.inl hpath
  · obtain ⟨d, device, sizeMb, passphrase, hreq, -⟩ := hfd i
    refine Shared.of_fs ?_ (Or.inr ⟨obj, hfd⟩)
    rw [hreq] at hc
    rcases hc with ⟨c', rfl, hc'⟩ | ⟨size, rfl⟩
    · exact formatsAt_fs hc' o s
    · simp only [createExec, Creating.answer]
      split
      · rfl
      · rfl
      · simp only [Creating.truncate]
        split_ifs
        · rfl
        · rfl

/-- Where there is a container, nobody passes. -/
lemma shut_of_made {s : Creating} (hs : Shared reqs s.world) {i m : Fin n} {slot : ℤ}
    {passphrase : String} (hmade : Made i.val (reqs i).device passphrase slot s) {c : CreateCmd}
    (hc : (reqs m).Looks c) (o : Oracle) : ¬ Passes c (createExec m.val c o s).1 := by
  obtain ⟨obj, -, -, hnode, hsize, -⟩ := hmade
  rcases hs with ⟨realPath, hpath⟩ | ⟨obj', hfd⟩
  · obtain ⟨sizeMb, pw, owner, hreq⟩ := hpath i
    obtain ⟨sizeMb', pw', owner', hreq'⟩ := hpath m
    rw [hreq] at hnode
    rw [hreq'] at hc
    rcases hc with rfl | rfl
    · intro hfound
      have hexists : s.world.fs.pathExists realPath = false := hfound
      have hsome : s.world.fs.node realPath = some obj := hnode
      simp [FileSystem.pathExists, hsome] at hexists
    · exact fun h => h
  · obtain ⟨d, device, sizeMb, pw, hreq, hobj⟩ := hfd i
    obtain ⟨d', device', sizeMb', pw', hreq', hobj'⟩ := hfd m
    rw [hreq] at hnode
    obtain rfl : obj' = obj := Option.some.inj (hobj.symm.trans hnode)
    rw [hreq'] at hc
    obtain rfl : c = CreateCmd.fstat device' := hc
    intro hempty
    have hlen : (if o.fault.isSome then none else (s.world.fs.node device').map s.size) = some 0 :=
      hempty
    split_ifs at hlen
    rw [hobj'] at hlen
    simp only [Option.map_some, Option.some.injEq] at hlen
    omega

/-- An act that ends at once, its size being out of range, does not succeed. -/
lemma act_starts {r : CreateRequest} {a : CreateAnswer} (h : r.act = Prog.ret a) :
    ¬ Succeeds a := by
  cases r with
  | path realPath sizeMb passphrase owner =>
      change lift (runCreate (Prog.bind (createImageFile realPath sizeMb) _)) = _ at h
      rw [createImageFile] at h
      split_ifs at h
      · cases h
      · obtain rfl := Prog.ret.inj h
        exact Bool.false_ne_true
  | fd d device sizeMb passphrase =>
      rw [CreateRequest.act] at h
      split_ifs at h
      · cases h
      · obtain rfl := Prog.ret.inj h
        exact Bool.false_ne_true

/-- What is known of the requests, as threads that look and then act. -/
lemma creates_sections (reqs : Fin n → CreateRequest) :
    Sections (createHandlers n) (fun i => (reqs i).act) (fun i => (reqs i).Looks) (fun _ => Passes)
      Succeeds (fun s => Shared reqs s.world) Creating.Waits
      (fun i a => Made i.val (reqs i).device (reqs i).passphrase a.2.1) where
  refl := Creating.Waits.refl
  trans := fun _ _ _ => Creating.Waits.trans
  looks := fun _ _ o s hc => looks_waits hc o s
  waits_ground := fun s t ht hs => by
    obtain ⟨d, rfl⟩ := ht
    exact Shared.of_fs rfl hs
  issues := fun i => (act_issues (reqs i)).mono fun c hc =>
    ⟨hc.not_looks, fun o s hs => shared_act hc o hs⟩
  starts := fun _ _ ha => act_starts ha
  act := fun i s _ => act_made (reqs i) i.val s
  waits_act := fun i q s t ht hq => by
    obtain ⟨d, rfl⟩ := ht
    refine wp_later (fun x s d hx => ?_) d hq
    exact fun a ha hsucc => hx a ha hsucc
  shut := fun i a s hs hmade m c o hc => shut_of_made hs hmade hc o

/-- The creates as sections of a pool: a guard that looks, and an act that only those past it do. -/
lemma creates_orderly {w : World} (hshared : Shared reqs w) (size : ℕ → ℕ) :
    Sections.Orderly (createHandlers n) (fun i => (reqs i).act) (fun i => (reqs i).Looks)
      (fun _ => Passes) Succeeds (fun s => Shared reqs s.world)
      (fun i a => Made i.val (reqs i).device (reqs i).passphrase a.2.1) (Creates reqs w size) where
  ground := hshared
  place := fun i => Or.inl (before_body (reqs i))
  one := by
    refine ⟨none, fun i h => by simp at h, fun i _ => ⟨?_, fun a ha hsucc => ?_⟩⟩
    · exact (creates_sections reqs).not_inside_of_before (before_body (reqs i))
    · have hbefore := before_body (reqs i)
      have hbody : (reqs i).body = Prog.ret a := ha
      rw [hbody] at hbefore
      exact hbefore hsucc

end

/-- **Never reformat in place.**  Any number of creates are under way, all for one path or all on
descriptors of one file, and none passes its guard while another is past its own and not finished.
Then at most one succeeds; what that one formatted is on the disk, and without a passphrase the key
in the cache is the key of the header; and from the moment it has succeeded, nothing happens any more
but that time passes. -/
theorem one_create_succeeds {n : ℕ} (reqs : Fin n → CreateRequest) (w : World) (size : ℕ → ℕ)
    (hshared : Shared reqs w) (sched sched' : List (Fin n × Oracle))
    (hs : (Creates reqs w size).Along (createHandlers n)
      (Pool.OneAtATime (createHandlers n) fun i => (reqs i).act) (sched ++ sched')) :
    let p := (Creates reqs w size).run (createHandlers n) sched
    let q := (Creates reqs w size).run (createHandlers n) (sched ++ sched')
    (∀ i j slot slot' msg msg', q.threads i = Prog.ret (true, slot, msg) →
        q.threads j = Prog.ret (true, slot', msg') → i = j)
      ∧ ∀ i slot msg, p.threads i = Prog.ret (true, slot, msg) →
        Made i.val (reqs i).device (reqs i).passphrase slot p.state ∧ p.state.Waits q.state
          ∧ Made i.val (reqs i).device (reqs i).passphrase slot q.state := by
  intro p q
  have hsec := creates_sections reqs
  obtain ⟨hs₁, hs₂⟩ := Pool.along_append.mp hs
  have hp := hsec.run_orderly (creates_orderly hshared size) hs₁
  have hq := hsec.run_orderly (creates_orderly hshared size) hs
  refine ⟨fun i j slot slot' msg msg' hi hj => ?_, fun i slot msg hi => ?_⟩
  · by_contra hne
    exact ((Sections.done_of_succeeded hq hi rfl).2 j (Ne.symm hne)).2 _ hj rfl
  · obtain ⟨hret, hwaits⟩ := hsec.run_after hp hi rfl hs₂
    rw [← Pool.run_append] at hret hwaits
    exact ⟨(Sections.done_of_succeeded hp hi rfl).1, hwaits, (Sections.done_of_succeeded hq hret rfl).1⟩

/-! ## Two requests

Two creates with one path.  If both look before either acts, both say that they created the image;
if the second looks after the first has ended, it is refused.
-/

/-- The answer of a request that has ended with one. -/
def answered : CreateOp CreateAnswer → Option CreateAnswer
  | Prog.ret a => some a
  | Prog.fail _ => none
  | Prog.call _ _ => none

/-- A thread that has answered has nothing left to do. -/
lemma answered_eq_some {q : CreateOp CreateAnswer} {a : CreateAnswer} (h : answered q = some a) :
    q = Prog.ret a := by
  cases q with
  | ret b => exact congrArg Prog.ret (Option.some.inj h)
  | fail e => simp [answered] at h
  | call c k => simp [answered] at h

/-- Two requests for a container without a passphrase at one path. -/
def samePath : Fin 2 → CreateRequest :=
  fun _ => CreateRequest.path "/home/u/vault.img" 16 "" (some (1000, 1000))

/-- Two such requests on descriptors of one file. -/
def sameFile : Fin 2 → CreateRequest
  | 0 => CreateRequest.fd ⟨sIfreg, oRdwr, by decide⟩ "/proc/self/fd/7" 16 ""
  | 1 => CreateRequest.fd ⟨sIfreg, oRdwr, by decide⟩ "/proc/self/fd/8" 16 ""

/-- Nothing is there. -/
def emptyWorld : World := World.start (FileSystem.ofList [] []) fun _ => none

/-- Both descriptors refer to one file, which is empty. -/
def emptyFile : World := World.start
  { node := fun p => if p = "/proc/self/fd/7" ∨ p = "/proc/self/fd/8" then some 0 else none
    canonicalize := fun _ => none
    kind := fun _ => FileKind.regular
    uid := fun _ => 1000
    text := fun _ => none
    next := 1
    node_lt := fun p i h => by
      split_ifs at h
      obtain rfl := Option.some.inj h
      exact Nat.zero_lt_one
    canonicalize_node := fun p q h => by simp at h } fun _ => none

/-- The oracle of the second request: other random bytes. -/
def second : Oracle := { Oracle.quiet with bytes := fun _ => 1 }

/-- Both look, then the first goes on to its end. -/
def bothLook {ι : Type} (i j : ι) : List (ι × Oracle) :=
  [(i, Oracle.quiet), (j, second)] ++ List.replicate 8 (i, Oracle.quiet)

/-- **Created twice.**  Both requests find the path free, and the first is told that it has created
the container.  Then the second truncates the file and formats it with a key of its own, and is told
the same.  Two requests on descriptors of one file do so too. -/
theorem created_twice :
    let run (reqs : Fin 2 → CreateRequest) (w : World) (sched : List (Fin 2 × Oracle)) :=
      (Creates reqs w fun _ => 0).run (createHandlers 2) sched
    let p := run samePath emptyWorld (bothLook 0 1)
    let q := run samePath emptyWorld (bothLook 0 1 ++ List.replicate 8 (1, second))
    let p' := run sameFile emptyFile (bothLook 0 1)
    let q' := run sameFile emptyFile (bothLook 0 1 ++ List.replicate 8 (1, second))
    (answered (p.threads 0) = some (true, -1, "")
        ∧ (p.state.world.luks 0).map Header.volumeKey = some ⟨List.replicate 64 0⟩
        ∧ answered (q.threads 0) = some (true, -1, "") ∧ answered (q.threads 1) = some (true, -1, "")
        ∧ (q.state.world.luks 0).map Header.volumeKey = some ⟨List.replicate 64 1⟩)
      ∧ answered (p'.threads 0) = some (true, -1, "")
        ∧ (p'.state.world.luks 0).map Header.volumeKey = some ⟨List.replicate 64 0⟩
        ∧ answered (q'.threads 0) = some (true, -1, "")
        ∧ answered (q'.threads 1) = some (true, -1, "")
        ∧ (q'.state.world.luks 0).map Header.volumeKey = some ⟨List.replicate 64 1⟩ := by
  decide +kernel

/-- All steps of one request. -/
def onlyOf {ι : Type} (i : ι) (n : ℕ) (o : Oracle) : List (ι × Oracle) :=
  (List.replicate n o).map fun o => (i, o)

/-- The first create runs to its end before the second begins. -/
lemma first_ended : answered (((Creates samePath emptyWorld fun _ => 0).run (createHandlers 2)
    (onlyOf 0 9 Oracle.quiet)).threads 0) = some (true, -1, "") := by
  decide +kernel

/-- So no guard is passed while the other one acts. -/
lemma inTurn_oneAtATime : (Creates samePath emptyWorld fun _ => 0).Along (createHandlers 2)
    (Pool.OneAtATime (createHandlers 2) fun i => (samePath i).act)
    (onlyOf 0 9 Oracle.quiet ++ onlyOf 1 2 second) := by
  refine Pool.along_append.mpr ⟨Pool.along_alone (fun m _ => ?_) _, Pool.along_alone (fun m hm => ?_) _⟩
  · exact (creates_sections samePath).not_inside_of_before (before_body (samePath m))
  · obtain rfl : m = 0 := by omega
    rw [answered_eq_some first_ended]
    exact Prog.not_inside_ret _ _

/-- The second is refused, and the container stays. -/
theorem second_create_refused :
    let q := (Creates samePath emptyWorld fun _ => 0).run (createHandlers 2)
      (onlyOf 0 9 Oracle.quiet ++ onlyOf 1 2 second)
    answered (q.threads 1) = some (false, -1, "A file already exists at this path")
      ∧ Made 0 "/home/u/vault.img" "" (-1) q.state := by
  have hshared : Shared samePath emptyWorld := Or.inl ⟨_, fun _ => ⟨_, _, _, rfl⟩⟩
  refine ⟨by decide +kernel, ?_⟩
  exact ((one_create_succeeds samePath emptyWorld (fun _ => 0) hshared (onlyOf 0 9 Oracle.quiet)
    (onlyOf 1 2 second) inTurn_oneAtATime).2 0 (-1) "" (answered_eq_some first_ended)).2.2

end LuksEnroll
