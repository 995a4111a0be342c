import LuksEnroll.CacheHistory
import LuksEnroll.KeyCache
import LuksEnroll.Opening
import LuksEnroll.Secrets

/-!
# Opening what has been unlocked

The client asks twice: `VerifyPassphrase` or `UnlockWithToken` first, `OpenVolume` when the answer was
yes.  Between the two, and beside them, the service answers any number of other calls.

**What a call sees.**  Each call resolves its path in a file system of its own (`Views`): the path of an
`*Fd` method is `/proc/self/fd/N`, which leads to the file of *this* call and, once its descriptor is
closed, to any other file in a later one; a mapping node or a directory entry may change hands as well.
A path together with the file system it is resolved in is a `VolumePlace`, and the cache knows a place by the
canonical path, or by the path itself where that does not resolve (`VolumePlace.name`).  Nothing ties the file
systems of two calls together but one condition on the place in question: no call uses its name for
another file (`VolumePlace.Unambiguous`).  Without it the service hands the key of one file to a call on
another, since `luks::realpath` falls back on the number of a descriptor.

Three facts about every interleaving of calls that format nothing:

* `concurrent_keys_current`: a key that is handed out from the cache is the key of the header that the
  place of the call leads to;
* `confirmed_opens`: for 120 seconds after the key was cached the volume opens, whatever the second call
  authenticates with: no call drops the key, not even a wipe of the keyslot it came from;
* `confirmed_passphrase_opens`: the passphrase itself opens the volume at any later time, until a call
  wipes the keyslot that was named in the answer.

They rest on what one command leaves of the headers (`InPlaceStep`), on what a thread must have behind it
to cache a key or to say yes (`KeyRule`, `ServiceCall.Confirms`), and on one rule for runs
(`ServicePool.Serving.keeps`), to which each invariant of this module is handed with its step lemma.
-/

namespace LuksEnroll

open Library
open Prog (AllCalls Tells)

/-! ## Commands that format nothing

One command, and what it leaves of every header: the volume key, and every keyslot except the one
that it destroys.
-/

/-- No format, no raw write, no new file and no new owner of one. -/
def Cmd.InPlace : Cmd → Prop
  | Cmd.format _ _ => False
  | Cmd.createFile _ => False
  | Cmd.writeAll _ _ _ => False
  | Cmd.chown _ _ _ => False
  | Cmd.wipefs _ => False
  | Cmd.gptZapAndPartition _ => False
  | Cmd.partprobe _ => False
  | _ => True

/-- **What one command leaves of the volumes**: paths lead where they led, and a header keeps its
volume key and its keyslots, up to the one that the command destroys. -/
structure InPlaceStep (c : Cmd) (w w' : World) : Prop where
  fs : w'.fs = w.fs
  absent : ∀ obj, w.luks obj = none → w'.luks obj = none
  header : ∀ obj h, w.luks obj = some h → ∃ h', w'.luks obj = some h' ∧ h'.volumeKey = h.volumeKey
    ∧ ∀ k ks, h.keyslots k = some ks → h'.keyslots k = some ks
      ∨ ∃ d, c = Cmd.keyslotDestroy d k ∧ w.fs.node d = some obj

section Command

variable {who : Option ℕ} {c : Cmd} {w w' : World}

/-- A step that leaves the file system and the headers alone. -/
lemma InPlaceStep.of_same (hfs : w'.fs = w.fs) (hluks : w'.luks = w.luks) : InPlaceStep c w w' where
  fs := hfs
  absent := fun obj hnone => by rw [hluks, hnone]
  header := fun obj h hh => ⟨h, by rw [hluks, hh], rfl, fun k ks hks => Or.inl hks⟩

/-- A header write that keeps the volume key, and all keyslots but those it is there to destroy. -/
lemma InPlaceStep.of_update {α : Type} {device : String} {o : Oracle}
    {f : Header → Except String (α × Header)}
    (hf : ∀ h a h', f h = Except.ok (a, h') → h'.volumeKey = h.volumeKey
      ∧ ∀ k ks, h.keyslots k = some ks → h'.keyslots k = some ks
        ∨ c = Cmd.keyslotDestroy device k) :
    InPlaceStep c w (World.update { w with now := w.now + o.elapsed } device o f).2 := by
  rcases World.update_cases { w with now := w.now + o.elapsed } device o f with
    ⟨h₀, a, h', -, hh₀, hfh, -, hwrote⟩ | ⟨e, hres, -⟩
  · obtain ⟨i, hi, hluks⟩ := Option.bind_eq_some_iff.mp hh₀
    refine ⟨hwrote.fs, fun obj hnone => ?_, fun obj h hh => ?_⟩
    · rw [hwrote.luks i hi, Function.update_of_ne]
      · exact hnone
      · rintro rfl
        rw [hluks] at hnone
        cases hnone
    · rcases hwrote.luks_cases hh with ⟨-, hafter⟩ | ⟨rfl, hnode, hafter⟩
      · exact ⟨h, hafter, rfl, fun k ks hks => Or.inl hks⟩
      · obtain ⟨hkey, hslots⟩ := hf h₀ a h' hfh
        exact ⟨h', hafter, hkey, fun k ks hks =>
          (hslots k ks hks).imp_right fun hc => ⟨device, hc, hnode⟩⟩
  · rw [hres]
    exact InPlaceStep.of_same rfl rfl

/-- No command of these calls takes a keyslot away, except the one that destroys it. -/
lemma exec_inPlace (hc : c.InPlace) (o : Oracle) (w : World) :
    InPlaceStep c w (exec who c o w).2 := by
  cases c with
  | cacheGet device =>
      have hsame := @exec_readsOn device who (Cmd.cacheGet device) rfl o w
      exact InPlaceStep.of_same hsame.fs hsame.luks
  | addByKey device vk pw =>
      refine InPlaceStep.of_update fun h a h' hadd => ?_
      obtain ⟨pw', -, hfree, hks, -, hvk⟩ := addByKey_ok hadd
      refine ⟨hvk, fun k ks hk => Or.inl ?_⟩
      have hne : k ≠ a := by
        rintro rfl
        rw [hfree] at hk
        cases hk
      rw [hks, Function.update_of_ne hne, hk]
  | tokenJsonSet device input =>
      refine InPlaceStep.of_update fun h a h' hset => ?_
      obtain ⟨hks, hvk⟩ := jsonSet_keeps hset
      exact ⟨hvk, fun k ks hk => Or.inl (by rw [hks, hk])⟩
  | keyslotDestroy device slot =>
      refine InPlaceStep.of_update fun h a h' hd => ?_
      obtain ⟨-, hks, -, hvk⟩ := Header.destroyKeyslot_spec (keyslotDestroy_ok hd)
      refine ⟨hvk, fun k ks hk => ?_⟩
      by_cases hslot : k = slot
      · exact Or.inr (by rw [hslot])
      · exact Or.inl (by rw [hks, Function.update_of_ne hslot, hk])
  | activateByVolumeKey device name vk =>
      simp only [exec, answer, World.activate]
      split
      · exact InPlaceStep.of_same rfl rfl
      split
      · exact InPlaceStep.of_same rfl rfl
      split
      · exact InPlaceStep.of_same rfl rfl
      split_ifs
      · exact InPlaceStep.of_same rfl rfl
      · exact InPlaceStep.of_same rfl rfl
  | deactivate name =>
      simp only [exec, answer]
      split
      · exact InPlaceStep.of_same rfl rfl
      · exact InPlaceStep.of_same rfl rfl
  | _ => first | exact InPlaceStep.of_same rfl rfl | exact hc.elim

end Command

/-! ## Calls that format nothing

All methods but the three that format.  Which commands they issue is known from `Effects` and
`Concurrency`; here it is put into one predicate for each call.
-/

namespace ServiceCall

/-- Not one of the three methods that make a volume. -/
def InPlace : ServiceCall → Prop
  | request (Request.createEncryptedImage _ _ _ _) => False
  | request (Request.createImageFd _ _) => False
  | request (Request.formatPartition _ _) => False
  | _ => True

/-- The keyslot that a call is to wipe. -/
def wipes : ServiceCall → Option (String × I32)
  | volume device (VolumeOp.wipeSlot _ _ _ slot) => some (device, slot)
  | request (Request.slot (SlotRequest.wipeSlot device _ _ _ slot)) => some (device, slot)
  | _ => none

/-- The path of the volume that a call is on. -/
def device : ServiceCall → Option String
  | volume device _ => some device
  | request (Request.slot r) => some r.device
  | request (Request.verifyPassphrase device _) => some device
  | request (Request.unlockWithToken device _ _) => some device
  | request (Request.openVolume device _ _ _ _) => some device
  | _ => none

end ServiceCall

/-- The path from which a command loads a header, or under whose name it uses the cache. -/
def Cmd.keyPath : Cmd → Option String
  | Cmd.load d => some d
  | Cmd.cacheGet d => some d
  | Cmd.cacheInsert d _ => some d
  | _ => none

/-- **What a call may issue**: commands that format nothing, that load and cache by the path of the call
only, and no destroy but of the keyslot it is to wipe. -/
structure ServiceCall.Issues (call : ServiceCall) (c : Cmd) : Prop where
  inPlace : c.InPlace
  keyPath : ∀ d, c.keyPath = some d → call.device = some d
  destroys : ∀ d k, c = Cmd.keyslotDestroy d k →
    ∃ slot, call.wipes = some (d, slot) ∧ asU32 slot.val = k

section Calls

variable {call : ServiceCall} {device : String} {α : Type}

/-- Commands that neither load nor cache nor destroy. -/
lemma issues_of_plain {c : Cmd} (hc : c.InPlace) (hpath : c.keyPath = none)
    (hne : ∀ d k, c ≠ Cmd.keyslotDestroy d k) : call.Issues c where
  inPlace := hc
  keyPath := fun d h => by
    rw [hpath] at h
    cases h
  destroys := fun d k h => absurd h (hne d k)

/-- A command that names a path names the device of the method. -/
lemma Cmd.ReadsOn.keyPath {c : Cmd} (hc : c.ReadsOn device) {d : String} (hd : c.keyPath = some d) :
    d = device := by
  cases c with
  | load d' =>
      obtain rfl := Option.some.inj hd
      exact hc
  | cacheGet d' =>
      obtain rfl := Option.some.inj hd
      exact hc
  | cacheInsert d' vk =>
      obtain rfl := Option.some.inj hd
      exact hc
  | _ => cases hd

/-- What only reads is issued by a call on its device. -/
lemma Cmd.ReadsOn.issues {c : Cmd} (hc : c.ReadsOn device) (hcall : call.device = some device) :
    call.Issues c where
  inPlace := by cases c <;> first | exact hc.elim | trivial
  keyPath := fun d hd => by rw [hcall, hc.keyPath hd]
  destroys := by
    rintro d k rfl
    exact hc.elim

/-- What closes a mapping is issued by any call. -/
lemma Cmd.Closes.issues {c : Cmd} (hc : c.Closes) : call.Issues c := by
  cases c <;> first | exact hc.elim | exact issues_of_plain trivial rfl fun _ _ => by simp

/-- A part that reads is issued by the call it belongs to. -/
lemma issues_of_reads {p : Op α} (hcall : call.device = some device)
    (hp : p.AllCalls (Cmd.ReadsOn device)) : p.AllCalls call.Issues :=
  hp.mono fun _ hc => hc.issues hcall

lemma SlotRequest.body_inPlace {r : SlotRequest} (hcall : call.device = some r.device)
    (hwipes : ∀ device passphrase unlockMethod pin slot,
      r = SlotRequest.wipeSlot device passphrase unlockMethod pin slot →
        call.wipes = some (device, slot)) : r.body.AllCalls call.Issues := by
  refine r.body_issues.mono fun c hc => ?_
  rcases hc with hread | hw
  · exact hread.issues hcall
  · cases r with
    | wipeSlot device passphrase unlockMethod pin slot =>
        rcases hw with ⟨id, rfl⟩ | rfl
        · exact issues_of_plain trivial rfl fun _ _ => by simp
        · refine ⟨trivial, fun d h => (by cases h), fun d k h => ?_⟩
          obtain ⟨rfl, hk⟩ := Cmd.keyslotDestroy.inj h
          exact ⟨slot, hwipes device passphrase unlockMethod pin slot rfl, hk⟩
    | enrollPassphrase device existing new unlockMethod unlockPin =>
        obtain ⟨vk, pw, rfl⟩ := hw
        exact issues_of_plain trivial rfl fun _ _ => by simp
    | _ =>
        rcases hw with ⟨vk, pw, rfl⟩ | ⟨json, rfl⟩
        · exact issues_of_plain trivial rfl fun _ _ => by simp
        · exact issues_of_plain trivial rfl fun _ _ => by simp

lemma Cmd.OpensOn.issues {name : String} {c : Cmd} (hc : c.OpensOn device name)
    (hcall : call.device = some device) : call.Issues c := by
  rcases hc with hread | ⟨vk, rfl⟩
  · exact hread.issues hcall
  · exact issues_of_plain trivial rfl (by simp)

/-- A method on a device stays on that device. -/
lemma VolumeOp.body_inPlace (m : VolumeOp) (device : String) :
    (m.body device).AllCalls (ServiceCall.volume device m).Issues := by
  have hcall : (ServiceCall.volume device m).device = some device := rfl
  cases hr : m.slotRequest device with
  | none =>
      refine (VolumeOp.body_opens hr).mono fun c hc => ?_
      obtain ⟨name, hopens⟩ := hc
      exact hopens.issues hcall
  | some r =>
      rw [VolumeOp.body_of_slotRequest hr]
      refine AllCalls.bind (SlotRequest.body_inPlace ?_ ?_) fun _ => trivial
      · rw [hcall, VolumeOp.slotRequest_device hr]
      · rintro d passphrase unlockMethod pin slot rfl
        cases m <;> cases hr
        rfl

/-- **Every call that formats nothing.** -/
lemma ServiceCall.body_inPlace (hcall : call.InPlace) : call.body.AllCalls call.Issues := by
  cases call with
  | volume device m => exact AllCalls.bind (m.body_inPlace device) fun _ => trivial
  | request r =>
      refine AllCalls.bind ?_ fun _ => trivial
      cases r with
      | slot r =>
          refine AllCalls.bind (SlotRequest.body_inPlace rfl ?_) fun _ => trivial
          rintro d p m q s rfl
          rfl
      | verifyPassphrase device passphrase =>
          exact AllCalls.bind (issues_of_reads rfl (verifyPassphrase_reads device passphrase))
            fun _ => trivial
      | unlockWithToken device tokenType pin =>
          exact AllCalls.bind (issues_of_reads rfl (verifyToken_reads device tokenType pin))
            fun _ => trivial
      | openVolume device name passphrase unlockMethod unlockPin =>
          exact AllCalls.bind ((opOpenVolume_opens device name passphrase unlockMethod
            unlockPin).mono fun _ hc => hc.issues rfl) fun _ => trivial
      | closeVolume name =>
          refine AllCalls.bind (AllCalls.bind
            ((deactivateVolume_closes name).mono fun _ hc => hc.issues).attempt fun x => ?_)
            fun _ => trivial
          cases x <;> trivial
      | closeVolumeFd found => exact (deactivateVolumes_closes found).mono fun _ hc => hc.issues
      | createEncryptedImage realPath sizeMb passphrase owner => exact hcall.elim
      | createImageFd path passphrase => exact hcall.elim
      | formatPartition device passphrase => exact hcall.elim

end Calls

/-! ## Places

A place is a path with a file system, and stands for what a call sees.  Its name in the cache is the
canonical path or the path itself, and the condition is that no call has this name for another file.
-/

/-- The file system that each call sees, with its own descriptor in it. -/
abbrev Views := ℕ → FileSystem

/-- A path, and the file system in which it is resolved. -/
structure VolumePlace where
  fs : FileSystem
  path : String

/-- The world as a call sees it. -/
def World.through (w : World) (fs : FileSystem) : World := { w with fs := fs }

namespace VolumePlace

/-- The object that a place leads to. -/
def node (p : VolumePlace) : Option ℕ := p.fs.node p.path

/-- Its name in the volume-key cache, `luks::realpath`. -/
def name (p : VolumePlace) : String := p.fs.cacheKey p.path

/-- The header there. -/
def headerIn (w : World) (p : VolumePlace) : Option Header := p.node.bind w.luks

/-- The volume key of the header there. -/
def keyIn (w : World) (p : VolumePlace) : Option VolumeKey := (p.headerIn w).map Header.volumeKey

/-- **The name of a place stands for one file**: a call that uses the name is on the same object. -/
def Unambiguous (views : Views) (calls : ℕ → ServiceCall) (p : VolumePlace) : Prop :=
  ∀ i device, (calls i).device = some device → (views i).cacheKey device = p.name →
    (views i).node device = p.node

end VolumePlace

/-- What is cached under the name of the place, and has not expired, is the key of the header there. -/
def World.AgreesAt (w : World) (p : VolumePlace) : Prop :=
  ∀ vk, live w.now (w.cache p.name) = some vk → p.keyIn w = some vk

/-- The volume key of the header at a path. -/
def World.keyAt (w : World) (path : String) : Option VolumeKey :=
  (w.header path).map Header.volumeKey

section Places

variable {w w' : World} {p : VolumePlace} {vk : VolumeKey}

/-- The key of a place is the key of a header. -/
lemma keyIn_eq_some : p.keyIn w = some vk ↔ ∃ h, p.headerIn w = some h ∧ h.volumeKey = vk := by
  rw [VolumePlace.keyIn, Option.map_eq_some_iff]

lemma keyIn_of_node {q : VolumePlace} (hsame : p.node = q.node) : p.keyIn w = q.keyIn w := by
  rw [VolumePlace.keyIn, VolumePlace.keyIn, VolumePlace.headerIn, VolumePlace.headerIn, hsame]

/-- Where headers keep their keys, places do. -/
lemma keyIn_of_keys
    (hkeys : ∀ obj, (w'.luks obj).map Header.volumeKey = (w.luks obj).map Header.volumeKey)
    (p : VolumePlace) : p.keyIn w' = p.keyIn w := by
  rw [VolumePlace.keyIn, VolumePlace.keyIn, VolumePlace.headerIn, VolumePlace.headerIn]
  cases hnode : p.node with
  | none => rfl
  | some obj => exact hkeys obj

/-- **In one file system every name stands for one file**: the canonical path of a path leads where the
path does. -/
lemma unambiguous_of_view {views : Views} {calls : ℕ → ServiceCall} (hviews : ∀ i, views i = p.fs) :
    p.Unambiguous views calls := by
  intro i device _ hname
  rw [hviews i] at hname ⊢
  rw [← p.fs.node_cacheKey device, hname, VolumePlace.name, p.fs.node_cacheKey]
  rfl

/-- A cache that agrees with the disk agrees at every place of its file system. -/
lemma agreesAt_of_cacheAgrees (hw : w.CacheAgrees) (path : String) : w.AgreesAt ⟨w.fs, path⟩ := by
  intro vk hlive
  obtain ⟨h, hh, hvk⟩ := hw _ vk hlive
  change (w.fs.node (w.fs.cacheKey path)).bind w.luks = some h at hh
  rw [w.fs.node_cacheKey] at hh
  exact keyIn_eq_some.mpr ⟨h, hh, hvk⟩

end Places

/-! ## Runs

Every command of call `i` is carried out in the file system of call `i`, and the rest of the state
is shared.  `Coherent` says of a state what its journal accounts for: which keys were cached, and by
whom.
-/

/-- Each call writes under its own number, and sees its own file system. -/
def viewExec (views : Views) (i : ℕ) : Handler Cmd Reply Oracle World :=
  fun c o w => exec (some i) c o (w.through (views i))

/-- A run of the service, with such calls. -/
def ServicePool.serveIn (views : Views) (p : ServicePool) (sched : List (ℕ × Oracle)) : ServicePool :=
  p.run (journaled (viewExec views)) sched

/-- The calls, all of them at their start, in a service that is at work. -/
def CallsFrom (w : World) (calls : ℕ → ServiceCall) : ServicePool where
  threads := fun i => (calls i).body
  state := ⟨w, []⟩

/-- An event of a run from `w₀` that formats nothing.  Headers are loaded with the keys they had at the
start, keys come out of loaded headers, and what goes into the cache is the key that its place had. -/
structure SoundEvent (views : Views) (calls : ℕ → ServiceCall) (w₀ : World) (e : ServiceEvent) :
    Prop where
  issued : (calls e.thread).Issues e.cmd
  loads : ∀ device loaded, e.what = ⟨Cmd.load device, Except.ok loaded⟩ →
    (VolumePlace.mk (views e.thread) device).keyIn w₀ = some loaded.volumeKey
  gets : ∀ loaded slot pw r, e.what = ⟨Cmd.volumeKeyGet loaded slot pw, Except.ok r⟩ →
    r.2 = loaded.volumeKey ∧ loaded.opens pw r.1 = true
  inserted : ∀ device vk, e.cmd = Cmd.cacheInsert device vk →
    (VolumePlace.mk (views e.thread) device).keyIn w₀ = some vk

/-- **What a run from `w₀` that formats nothing keeps.** -/
structure Coherent (views : Views) (calls : ℕ → ServiceCall) (w₀ : World) (j : ServiceJournal) :
    Prop where
  keys : ∀ obj, (j.state.luks obj).map Header.volumeKey = (w₀.luks obj).map Header.volumeKey
  sound : ∀ e ∈ j.log, SoundEvent views calls w₀ e
  times : ∀ e ∈ j.log, e.state.now ≤ j.state.now

section Step

variable {who : Option ℕ} {w₀ w w' : World} {device : String} {vk : VolumeKey} {o : Oracle} {c : Cmd}

/-- A command that formats nothing leaves every header its volume key. -/
lemma InPlaceStep.keys (h : InPlaceStep c w w') (obj : ℕ) :
    (w'.luks obj).map Header.volumeKey = (w.luks obj).map Header.volumeKey := by
  cases hobj : w.luks obj with
  | none => rw [h.absent obj hobj]
  | some loaded =>
      obtain ⟨h', hh', hvk, -⟩ := h.header obj loaded hobj
      rw [hh', Option.map_some, Option.map_some, hvk]

/-- An entry that is not too old stays, or is replaced by a younger one with the same key. -/
lemma exec_keeps_entry (hc : c.InPlace) {key : String} {t t₀ : ℕ}
    (hentry : w.cache key = some (vk, t)) (ht : t₀ ≤ t) (hpast : t₀ ≤ w.now)
    (hnow : w.now + o.elapsed < t₀ + volumeKeyCacheTtl)
    (hinsert : ∀ d vk', c = Cmd.cacheInsert d vk' → w.fs.cacheKey d = key → vk' = vk) :
    ∃ t', t₀ ≤ t' ∧ (exec who c o w).2.cache key = some (vk, t') := by
  have hupdate : ∀ {α : Type} (d : String) (f : Header → Except String (α × Header)),
      (World.update { w with now := w.now + o.elapsed } d o f).2.cache key = some (vk, t) := by
    intro α d f
    obtain ⟨luks, hstored⟩ := World.update_stored { w with now := w.now + o.elapsed } d o f
    rw [hstored]
    exact hentry
  cases c with
  | cacheGet d =>
      refine ⟨t, ht, ?_⟩
      simp only [exec, answer, World.cacheGet, World.cachedKey]
      split
      · exact hentry
      · rename_i hlive
        by_cases hkey : key = w.fs.cacheKey d
        · -- the entry that would be dropped has not run out
          have hage : w.now + o.elapsed - t < volumeKeyCacheTtl := by omega
          rw [← hkey, hentry, live, if_pos hage] at hlive
          cases hlive
        · exact (Function.update_of_ne hkey _ _).trans hentry
  | cacheInsert d vk' =>
      by_cases hkey : key = w.fs.cacheKey d
      · refine ⟨w.now + o.elapsed, by omega, ?_⟩
        obtain rfl := hinsert d vk' rfl hkey.symm
        simp [exec, answer, World.cacheInsert, hkey]
      · refine ⟨t, ht, ?_⟩
        simpa [exec, answer, World.cacheInsert, Function.update_of_ne hkey] using hentry
  | addByKey d vk' pw => exact ⟨t, ht, hupdate d _⟩
  | tokenJsonSet d input => exact ⟨t, ht, hupdate d _⟩
  | keyslotDestroy d slot => exact ⟨t, ht, hupdate d _⟩
  | activateByVolumeKey d name vk' =>
      refine ⟨t, ht, ?_⟩
      simp only [exec, answer, World.activate]
      split
      · exact hentry
      split
      · exact hentry
      split
      · exact hentry
      split_ifs
      · exact hentry
      · exact hentry
  | deactivate name =>
      refine ⟨t, ht, ?_⟩
      simp only [exec, answer]
      split
      · exact hentry
      · exact hentry
  | _ => first | exact ⟨t, ht, hentry⟩ | exact hc.elim

/-! ## One command of a run

The step lemma for each of the three facts: the journal stays coherent, the key at a place stays the
key of its header, and an entry that was put in the cache is kept until its time is over.
-/

variable {views : Views} {calls : ℕ → ServiceCall} {i : ℕ} {j : ServiceJournal} {p : VolumePlace}

lemma Coherent.remembered (h : Coherent views calls w₀ j) {x : Answered Cmd Reply}
    (hx : x ∈ own i j.log) : ∃ e, SoundEvent views calls w₀ e ∧ e.thread = i ∧ e.what = x := by
  obtain ⟨e, he, hthread, rfl⟩ := mem_own.mp hx
  exact ⟨e, h.sound e he, hthread, rfl⟩

lemma Coherent.keyIn (h : Coherent views calls w₀ j) (p : VolumePlace) : p.keyIn j.state = p.keyIn w₀ :=
  keyIn_of_keys h.keys p

/-- A key that a call may cache is the key of its place. -/
lemma Coherent.insertedBy (h : Coherent views calls w₀ j) {verifies : String → Prop}
    (hby : InsertedBy verifies device vk (own i j.log)) :
    (VolumePlace.mk (views i) device).keyIn w₀ = some vk := by
  rcases hby with hformat | ⟨⟨loaded, slot, pw, s, hload, hget⟩, -⟩
  · obtain ⟨e, he, -, hwhat⟩ := h.remembered hformat
    have hcmd : e.cmd = Cmd.format device (some vk) := congrArg Sigma.fst hwhat
    have hplace := he.issued.inPlace
    rw [hcmd] at hplace
    exact hplace.elim
  · obtain ⟨e, he, rfl, hwhat⟩ := h.remembered hload
    obtain ⟨e', he', -, hwhat'⟩ := h.remembered hget
    rw [he.loads device loaded hwhat, ← (he'.gets loaded slot pw (s, vk) hwhat').1]

/-- A key that a call may cache under the name of a place is the key of that place. -/
lemma Coherent.insertedAt (h : Coherent views calls w₀ j)
    (hc : (calls i).Issues (Cmd.cacheInsert device vk))
    (hrule : KeyRule (calls i).Verifies (Cmd.cacheInsert device vk) (own i j.log))
    (hp : p.Unambiguous views calls) (hname : (views i).cacheKey device = p.name) :
    p.keyIn w₀ = some vk := by
  rw [← h.insertedBy hrule]
  exact keyIn_of_node (hp i device (hc.keyPath device rfl) hname).symm

/-- A command that was admitted keeps the account of events. -/
lemma Coherent.soundEvent (h : Coherent views calls w₀ j) (hc : (calls i).Issues c)
    (hrule : KeyRule (calls i).Verifies c (own i j.log)) (s : World) :
    SoundEvent views calls w₀ ⟨i, c, (viewExec views i c o j.state).1, s⟩ where
  issued := hc
  loads := fun device loaded hwhat => by
    obtain rfl : c = Cmd.load device := congrArg Sigma.fst hwhat
    have hload : (exec (some i) (Cmd.load device) o (j.state.through (views i))).1
        = Except.ok loaded := by
      simpa [ServiceEvent.what, viewExec] using hwhat
    rw [← h.keyIn, keyIn_eq_some]
    exact ⟨loaded, load_ok hload, rfl⟩
  gets := fun loaded slot pw r hwhat => by
    obtain rfl : c = Cmd.volumeKeyGet loaded slot pw := congrArg Sigma.fst hwhat
    have hget : (exec (some i) (Cmd.volumeKeyGet loaded slot pw) o (j.state.through (views i))).1
        = Except.ok r := by
      simpa [ServiceEvent.what, viewExec] using hwhat
    exact ⟨(volumeKeyGet_ok hget).1, volumeKeyGet_opens hget⟩
  inserted := fun device vk hcmd => by
    obtain rfl : c = Cmd.cacheInsert device vk := hcmd
    exact h.insertedBy hrule

lemma viewExec_now (i : ℕ) (c : Cmd) (o : Oracle) (w : World) :
    (viewExec views i c o w).2.now = w.now + o.elapsed := (exec_stepped c o _).now

/-- **One command** keeps a run coherent, if it formats nothing and its thread's history allows it. -/
lemma Coherent.step (h : Coherent views calls w₀ j) (hc : (calls i).Issues c)
    (hrule : KeyRule (calls i).Verifies c (own i j.log)) :
    Coherent views calls w₀ (journaled (viewExec views) i c o j).2 := by
  have hstep : InPlaceStep c (j.state.through (views i)) (viewExec views i c o j.state).2 :=
    exec_inPlace hc.inPlace o _
  refine ⟨fun obj => (hstep.keys obj).trans (h.keys obj), ?_, ?_⟩
  · intro e he
    rcases List.mem_cons.mp he with rfl | he
    · exact h.soundEvent hc hrule _
    · exact h.sound e he
  · intro e he
    rcases List.mem_cons.mp he with rfl | he
    · exact Nat.le_refl _
    · have hpast := h.times e he
      have hnow := @viewExec_now views i c o j.state
      show e.state.now ≤ (viewExec views i c o j.state).2.now
      omega

/-- **One command** leaves a cache that agrees with the disk at a place, if the name of the place stands
for one file. -/
lemma Coherent.agreesAt (h : Coherent views calls w₀ j) (hw : j.state.AgreesAt p)
    (hp : p.Unambiguous views calls) (hc : (calls i).Issues c)
    (hrule : KeyRule (calls i).Verifies c (own i j.log)) :
    (journaled (viewExec views) i c o j).2.state.AgreesAt p := by
  intro vk hlive
  have hafter : Coherent views calls w₀ (journaled (viewExec views) i c o j).2 := h.step hc hrule
  have hstepped : Stepped c o (j.state.through (views i)) (viewExec views i c o j.state).2 :=
    exec_stepped c o _
  have hnow := @viewExec_now views i c o j.state
  rw [hafter.keyIn]
  cases hentry : (viewExec views i c o j.state).2.cache p.name with
  | none =>
      change live _ ((viewExec views i c o j.state).2.cache p.name) = some vk at hlive
      rw [hentry] at hlive
      cases hlive
  | some entry =>
      change live (viewExec views i c o j.state).2.now
        ((viewExec views i c o j.state).2.cache p.name) = some vk at hlive
      rw [hentry] at hlive
      rcases hstepped.cache p.name entry hentry with ⟨device, vk', rfl, hname, -, rfl⟩ | ⟨hold, -⟩
      · -- just cached, by a call on the same file
        obtain rfl : vk' = vk := by
          simpa [live, volumeKeyCacheTtl] using hlive
        exact h.insertedAt hc hrule hp hname
      · rw [← h.keyIn]
        refine hw vk ?_
        rw [show j.state.cache p.name = some entry from hold]
        exact live_of_later (by omega) hlive

/-- The entry of a place is there, or a younger one with the same key, for as long as it may be. -/
structure EntryKept (p : VolumePlace) (vk : VolumeKey) (t : ℕ) (j : ServiceJournal) : Prop where
  past : t ≤ j.state.now
  entry : j.state.now < t + volumeKeyCacheTtl →
    ∃ t', t ≤ t' ∧ j.state.cache p.name = some (vk, t')

/-- **One command** keeps the entry, if it formats nothing. -/
lemma EntryKept.step {t : ℕ} (h : EntryKept p vk t j) (hj : Coherent views calls w₀ j)
    (hkey : p.keyIn w₀ = some vk) (hp : p.Unambiguous views calls) (hc : (calls i).Issues c)
    (hrule : KeyRule (calls i).Verifies c (own i j.log)) :
    EntryKept p vk t (journaled (viewExec views) i c o j).2 := by
  have hnow := @viewExec_now views i c o j.state
  have hpast := h.past
  refine ⟨?_, fun htime => ?_⟩
  · show t ≤ (viewExec views i c o j.state).2.now
    omega
  · have htime' : j.state.now + o.elapsed < t + volumeKeyCacheTtl := hnow ▸ htime
    obtain ⟨t', ht', hentry⟩ := h.entry (by omega)
    refine exec_keeps_entry (w := j.state.through (views i)) hc.inPlace hentry ht' hpast htime' ?_
    rintro d vk' rfl hname
    -- whoever caches a key under this name has the key of the volume
    have hnew := hj.insertedAt hc hrule hp hname
    rw [hkey] at hnew
    exact (Option.some.inj hnew).symm

/-- Whatever was cached under the name of the place is cached still, for as long as it may be. -/
def StillCached (views : Views) (p : VolumePlace) (j : ServiceJournal) : Prop :=
  ∀ e ∈ j.log, ∀ device vk, e.cmd = Cmd.cacheInsert device vk →
    (views e.thread).cacheKey device = p.name → EntryKept p vk e.state.now j

/-- **One command** keeps what was cached. -/
lemma StillCached.step (h : StillCached views p j) (hj : Coherent views calls w₀ j)
    (hp : p.Unambiguous views calls) (hc : (calls i).Issues c)
    (hrule : KeyRule (calls i).Verifies c (own i j.log)) :
    StillCached views p (journaled (viewExec views) i c o j).2 := by
  intro e he device vk hcmd hname
  rcases List.mem_cons.mp he with rfl | he
  · obtain rfl : c = Cmd.cacheInsert device vk := hcmd
    refine ⟨Nat.le_refl _, fun _ => ⟨_, Nat.le_refl _, ?_⟩⟩
    show (Function.update j.state.cache ((views i).cacheKey device) _) p.name = _
    rw [show (views i).cacheKey device = p.name from hname, Function.update_self]
    rfl
  · have he₀ : SoundEvent views calls w₀ e := hj.sound e he
    have hdevice : (calls e.thread).device = some device := by
      refine he₀.issued.keyPath device ?_
      rw [hcmd]
      rfl
    refine (h e he device vk hcmd hname).step hj ?_ hp hc hrule
    rw [← he₀.inserted device vk hcmd]
    exact keyIn_of_node (hp e.thread device hdevice hname).symm

end Step

section Runs

variable {views : Views} {w : World} {calls : ℕ → ServiceCall}

/-- The calls begin with nothing behind them. -/
lemma coherent_start : Coherent views calls w (CallsFrom w calls).state where
  keys := fun _ => rfl
  sound := fun e he => by cases he
  times := fun e he => by cases he

/-! ## What an answer tells of the history

A call that says yes to a passphrase loaded the header at its place and had the key of the slot it
names.  The state is not needed for this.
-/

/-- The two methods that unlock. -/
def VolumeOp.Unlocks : VolumeOp → Prop
  | VolumeOp.verifyPassphrase _ => True
  | VolumeOp.unlockWithToken _ _ => True
  | _ => False

/-- A key was cached for the device.  If it was a passphrase that got it, the passphrase opened this
keyslot of a header that was loaded from there. -/
def UnlockHistory (device : String) (m : VolumeOp) (slot : ℤ) (past : List (Answered Cmd Reply)) :
    Prop :=
  (∃ vk, ⟨Cmd.cacheInsert device vk, ()⟩ ∈ past)
    ∧ ∀ passphrase, m = VolumeOp.verifyPassphrase passphrase →
      ∃ (loaded : Header) (vk : VolumeKey) (k : ℕ), slot = k
      ∧ ⟨Cmd.load device, Except.ok loaded⟩ ∈ past
      ∧ ⟨Cmd.volumeKeyGet loaded none (asBytes passphrase), Except.ok (k, vk)⟩ ∈ past

/-- Whoever says yes has that behind them. -/
def ServiceCall.Confirms : ServiceCall → Except String (Option Answer) →
    List (Answered Cmd Reply) → Prop
  | volume device m, x, past =>
      m.Unlocks → ∀ slot, x = Except.ok (some (Answer.found true slot)) →
        UnlockHistory device m slot past
  | request _, _, _ => True

section Histories

variable {device : String} {past : List (Answered Cmd Reply)}

/-- An answer with a slot has its history behind it. -/
lemma confirms_foundSlot {m : VolumeOp} {p : Op ℕ}
    (hp : p.Tells (KeyRule (ServiceCall.volume device m).Verifies)
      (fun x past' => ∀ k : ℕ, x = Except.ok k → UnlockHistory device m k past') past) :
    ((foundSlot p).bind fun a => Prog.ret (some a)).Tells
      (KeyRule (ServiceCall.volume device m).Verifies)
      (fun x past' => ∀ slot, x = Except.ok (some (Answer.found true slot)) →
        UnlockHistory device m slot past') past := by
  refine Tells.bind (Tells.bind (Tells.attempt (Tells.mono (fun x past' hx => ?_) hp)))
  cases x with
  | error e => exact fun slot h => by cases h
  | ok k =>
      intro slot h
      obtain ⟨-, rfl⟩ := Answer.found.inj (Option.some.inj (Except.ok.inj h))
      exact hx k rfl

/-- `VerifyPassphrase` found the slot with the passphrase it was given. -/
lemma confirms_verifyPassphrase (passphrase : String) :
    (verifyPassphrase device passphrase).Tells
      (KeyRule (ServiceCall.volume device (VolumeOp.verifyPassphrase passphrase)).Verifies)
      (fun x past' => ∀ k : ℕ, x = Except.ok k →
        UnlockHistory device (VolumeOp.verifyPassphrase passphrase) k past') past := by
  refine Tells.bind (Tells.mono (fun x past₁ h₁ => ?_) (tells_openLuks2 device))
  cases x with
  | error e => exact fun k h => by cases h
  | ok loaded =>
      refine ⟨trivial, fun reply => ?_⟩
      cases reply with
      | error e => exact fun k h => by cases h
      | ok found =>
          have hload : ⟨Cmd.load device, Except.ok loaded⟩ ∈ past₁ := h₁.2 loaded rfl
          refine ⟨Or.inr ⟨⟨loaded, none, asBytes passphrase, found.1, by simp [hload], by simp⟩,
            Or.inl rfl⟩, fun u k h => ?_⟩
          obtain rfl := Except.ok.inj h
          refine ⟨⟨found.2, by simp⟩, fun passphrase' hm => ?_⟩
          obtain rfl := VolumeOp.verifyPassphrase.inj hm
          exact ⟨loaded, found.2, found.1, rfl, by simp [hload], by simp⟩

/-- `UnlockWithToken` found it with the secret of a token. -/
lemma confirms_verifyToken (tokenType pin : String) :
    (verifyToken device tokenType pin).Tells
      (KeyRule (ServiceCall.volume device (VolumeOp.unlockWithToken tokenType pin)).Verifies)
      (fun x past' => ∀ k : ℕ, x = Except.ok k →
        UnlockHistory device (VolumeOp.unlockWithToken tokenType pin) k past') past := by
  rw [verifyToken]
  split_ifs
  · exact fun k h => by cases h
  · refine Tells.bind (Tells.mono (fun x past₁ _ => ?_)
      (tells_looks (derivePassphraseFromToken_looks device tokenType pin)))
    cases x with
    | error e => exact fun k h => by cases h
    | ok pw =>
        refine Tells.bind (Tells.mapErr (Tells.mono (fun x past₂ h₂ => ?_)
          (tells_extractTokenVolumeKey tokenType pw)))
        cases x with
        | error e => exact fun k h => by cases h
        | ok found =>
            refine ⟨Or.inr ⟨h₂.2 found rfl, Or.inl rfl⟩, fun u k h => ?_⟩
            exact ⟨⟨found.2, by simp⟩, fun passphrase hm => by cases hm⟩

/-- A call that answers has its history behind it. -/
lemma confirms_call (call : ServiceCall) :
    call.body.Tells (KeyRule call.Verifies) call.Confirms [] := by
  cases call with
  | request r => exact Tells.mono (fun _ _ _ => trivial) ((ServiceCall.request r).tells [])
  | volume device m =>
      by_cases hm : m.Unlocks
      · refine Tells.mono (fun x past hx _ => hx) ?_
        cases m with
        | verifyPassphrase passphrase => exact confirms_foundSlot (confirms_verifyPassphrase passphrase)
        | unlockWithToken tokenType pin =>
            show Tells _ _ (Prog.bind (if _ then _ else _) _) _
            split_ifs
            · exact fun slot h => by cases h
            · exact confirms_foundSlot (confirms_verifyToken tokenType pin)
        | _ => exact hm.elim
      · exact Tells.mono (fun _ _ _ h => absurd h hm) ((ServiceCall.volume device m).tells [])

end Histories

/-! ## What is known at any time

The three facts are carried through a whole run by one rule (`Serving.keeps`).
-/

/-- A service at some time of such a run: it is coherent, and every call keeps to what it says. -/
def ServicePool.Serving (views : Views) (w : World) (calls : ℕ → ServiceCall) (p : ServicePool) : Prop :=
  Coherent views calls w p.state ∧ ∀ i, (p.threads i).Tells
    (fun c past => (calls i).Issues c ∧ KeyRule (calls i).Verifies c past) (calls i).Confirms
    (own i p.state.log)

/-- The pool serves the calls, each on its own. -/
lemma serving_callsFrom (hcalls : ∀ i, (calls i).InPlace) :
    (CallsFrom w calls).Serving views w calls :=
  ⟨coherent_start, fun i => Tells.within (ServiceCall.body_inPlace (hcalls i)) (confirms_call _)⟩

namespace ServicePool.Serving

variable {p : ServicePool} {i : ℕ}

lemma serve (h : p.Serving views w calls) (sched : List (ℕ × Oracle)) :
    (p.serveIn views sched).Serving views w calls :=
  Pool.run_journal_all (viewExec views) (fun _ _ _ _ hj hP => hj.step hP.1 hP.2) h.2 h.1 sched

/-- **The rule for runs.**  What every command keeps that a call may issue, the run keeps. -/
lemma keeps {J : ServiceJournal → Prop}
    (hstep : ∀ i c o j, Coherent views calls w j → J j → (calls i).Issues c →
      KeyRule (calls i).Verifies c (own i j.log) → J (journaled (viewExec views) i c o j).2)
    (h : p.Serving views w calls) (hJ : J p.state) (sched : List (ℕ × Oracle)) :
    J (p.serveIn views sched).state :=
  (Pool.run_journal_all (viewExec views) (J := fun j => Coherent views calls w j ∧ J j)
    (fun i c o j hj hP => ⟨hj.1.step hP.1 hP.2, hstep i c o j hj.1 hj.2 hP.1 hP.2⟩) h.2 ⟨h.1, hJ⟩
    sched).1.2

lemma mem_log (h : p.Serving views w calls) {e : ServiceEvent} (he : e ∈ p.state.log)
    (sched : List (ℕ × Oracle)) : e ∈ (p.serveIn views sched).state.log :=
  h.keeps (J := fun j => e ∈ j.log) (fun _ _ _ _ _ hj _ _ => List.mem_cons_of_mem _ hj) he sched

/-- A call that has answered has behind it what its answer tells. -/
lemma answered (h : p.Serving views w calls) {x : Except String (Option Answer)}
    (hx : p.threads i = Prog.ofExcept x) : (calls i).Confirms x (own i p.state.log) := by
  have htell := h.2 i
  rw [hx] at htell
  cases x with
  | ok a => exact htell
  | error e => exact htell

end ServicePool.Serving

/-- The call, in the file system it sees, leaves this keyslot of the volume on this object alone. -/
def ServiceCall.Spares (fs : FileSystem) (obj k : ℕ) (call : ServiceCall) : Prop :=
  ∀ device slot, call.wipes = some (device, slot) → slot.val = k → fs.node device ≠ some obj

/-- A keyslot of a header that was loaded from the object is still there. -/
def Standing (views : Views) (obj k : ℕ) (j : ServiceJournal) : Prop :=
  ∀ e ∈ j.log, ∀ device loaded ks, ServiceEvent.what e = ⟨Cmd.load device, Except.ok loaded⟩ →
    (views e.thread).node device = some obj → loaded.keyslots k = some ks →
      ∃ h, j.state.luks obj = some h ∧ h.keyslots k = some ks

/-- **One command** leaves the keyslot standing, if its call is not there to wipe it. -/
lemma Standing.step {obj k i : ℕ} {c : Cmd} {o : Oracle} {j : ServiceJournal}
    (h : Standing views obj k j) (hc : (calls i).Issues c)
    (hspare : (calls i).Spares (views i) obj k) :
    Standing views obj k (journaled (viewExec views) i c o j).2 := by
  have hstep : InPlaceStep c (j.state.through (views i)) (viewExec views i c o j.state).2 :=
    exec_inPlace hc.inPlace o _
  -- where the keyslot is, it stays
  have hkept : ∀ {h₀ : Header} {ks : Keyslot}, j.state.luks obj = some h₀ →
      h₀.keyslots k = some ks → ∃ h', (viewExec views i c o j.state).2.luks obj = some h'
        ∧ h'.keyslots k = some ks := by
    intro h₀ ks hh₀ hks
    obtain ⟨h', hh', -, hslots⟩ := hstep.header obj h₀ hh₀
    rcases hslots k ks hks with hk | ⟨d, hd, hnode⟩
    · exact ⟨h', hh', hk⟩
    · obtain ⟨slot, hwipes, hslot⟩ := hc.destroys d k hd
      have hlt : k < keyslotsMax :=
        Header.lt_of_mem_slotIds (Header.mem_slotIds.mpr (by rw [hks]; rfl))
      rw [← hslot] at hlt
      have hval := eq_asU32_of_lt slot.property.1 slot.property.2 hlt
      rw [hslot] at hval
      exact absurd hnode (hspare d slot hwipes hval)
  intro e he device loaded ks hwhat hnode hks
  rcases List.mem_cons.mp he with rfl | he
  · obtain rfl : c = Cmd.load device := congrArg Sigma.fst hwhat
    have hload : (exec (some i) (Cmd.load device) o (j.state.through (views i))).1
        = Except.ok loaded := by
      simpa [ServiceEvent.what, viewExec] using hwhat
    have hh : ((views i).node device).bind j.state.luks = some loaded := load_ok hload
    rw [show (views i).node device = some obj from hnode] at hh
    exact hkept hh hks
  · obtain ⟨h₀, hh₀, hks₀⟩ := h e he device loaded ks hwhat hnode hks
    exact hkept hh₀ hks₀

end Runs

/-! ## Opening

`OpenVolume` when the key is in the cache, and when the credentials open a keyslot of the header
that it faces.
-/

/-- The call maps the volume under the name, and changes no other mapping. -/
structure OpensUnder (device name : String) (w : World) (r : Except String Triple × World) : Prop where
  answer : r.1 = Except.ok (true, name, "")
  mapped : r.2.MappedOver device name
  others : ∀ n, n ≠ name → r.2.mappings n = w.mappings n

section Opening

variable {device name : String} {w : World} {h : Header} {os : ℕ → Oracle}

/-- The end of `activate_volume`, with the volume key in hand. -/
lemma mapKey_quiet (hh : w.header device = some h) (hfree : w.mappings name = none)
    (word : String → String) :
    ((openLuks2 device).bind fun _ =>
      (ask (Cmd.activateByVolumeKey device name h.volumeKey)).bind fun r => orFail r word).wp
      (exec none) (fun o => o.fault = none) (fun x w' => x = Except.ok ()
        ∧ w'.MappedOver device name ∧ ∀ n, n ≠ name → w'.mappings n = w.mappings n) w := by
  refine Prog.wp_bind (Prog.wp_mono (fun x v hx => ?_) (openLuks2_spec w))
  obtain ⟨hsame, hx⟩ := hx
  cases x with
  | error e =>
      rcases hx with hf | hnone
      · exact absurd hf not_faulty_quiet
      · simp [hh] at hnone
  | ok loaded =>
      intro o ho
      obtain ⟨obj, hnode, hobj⟩ := Option.bind_eq_some_iff.mp hh
      have hnode' : v.fs.node device = some obj := by rw [hsame.fs, hnode]
      have hobj' : v.luks obj = some h := by rw [hsame.luks, hobj]
      have hfree' : v.mappings name = none := by rw [hsame.mappings, hfree]
      have hdone : exec none (Cmd.activateByVolumeKey device name h.volumeKey) o v
          = (Except.ok (), { v with
              now := v.now + o.elapsed
              mappings := Function.update v.mappings name
                (some ⟨obj, h.volumeKey, h.slotIds.length⟩) }) := by
        simp [exec, answer, World.activate, ho, hnode', hobj', hfree']
      show (orFail (exec none (Cmd.activateByVolumeKey device name h.volumeKey) o v).1 word).wp _ _ _
        (exec none (Cmd.activateByVolumeKey device name h.volumeKey) o v).2
      rw [hdone]
      refine ⟨rfl, ⟨obj, h, _, hnode', hobj', Function.update_self .., rfl, rfl⟩, fun n hn => ?_⟩
      exact (Function.update_of_ne hn _ _).trans (congrFun hsame.mappings n)

/-- `OpenVolume` under a free name, when `get_volume_key` gets the key. -/
lemma open_of_key (hh : w.header device = some h) (hname : validMapperName name = true)
    (hfree : w.mappings name = none) (hos : ∀ n, (os n).fault = none)
    {passphrase unlockMethod unlockPin : String} {v : World}
    (hkey : (getVolumeKey device unlockMethod passphrase unlockPin).run (exec none)
      (fun n => os (n + 1)) { w with now := w.now + (os 0).elapsed } = (Except.ok h.volumeKey, v))
    (hv : w.SameDisk v) :
    OpensUnder device name w
      ((opOpenVolume device name passphrase unlockMethod unlockPin).run (exec none) os w) := by
  have hactivate := Prog.wp_sound
    (@mapKey_quiet device name v h (by rw [hv.header device, hh]) (by rw [hv.mappings, hfree])
      fun e => "crypt_activate_by_volume_key failed: " ++ e)
  let later : ℕ → Oracle := Prog.after ((getVolumeKey device unlockMethod passphrase unlockPin).steps
    (exec none) (fun n => os (n + 1)) { w with now := w.now + (os 0).elapsed }) fun n => os (n + 1)
  have hrun : (activateVolume device name unlockMethod passphrase unlockPin).run (exec none) os w
      = Prog.run (exec none) ((openLuks2 device).bind fun _ =>
          (ask (Cmd.activateByVolumeKey device name h.volumeKey)).bind fun r =>
            orFail r fun e => "crypt_activate_by_volume_key failed: " ++ e) later v := by
    have hinactive : (exec none (Cmd.status name) (os 0) w).1 = false := by
      simp [exec, answer, hfree]
    rw [activateVolume, if_pos hname]
    show Prog.run _ (if (exec none (Cmd.status name) (os 0) w).1 = true then _ else _) _ _ = _
    rw [hinactive]
    exact Prog.run_bind_ok hkey
  obtain ⟨hok, hover, hothers⟩ := hactivate later fun n => hos _
  have hattempt := Prog.run_attempt (δ := String) (exec none)
    (activateVolume device name unlockMethod passphrase unlockPin) os w
  have hopen : (opOpenVolume device name passphrase unlockMethod unlockPin).run (exec none) os w
      = (Except.ok (true, name, ""),
        ((activateVolume device name unlockMethod passphrase unlockPin).run (exec none) os w).2) := by
    rw [opOpenVolume, Prog.bind_def, Prog.run_bind_ok hattempt, hrun, hok]
    rfl
  rw [hopen, hrun]
  exact ⟨rfl, hover, fun n hn => (hothers n hn).trans (congrFun hv.mappings n)⟩

/-- A look at the cache while there is an entry that is young enough. -/
lemma cacheGet_hit {who : Option ℕ} {w : World} {device : String} {vk : VolumeKey} {t : ℕ} {o : Oracle}
    (hentry : w.cache (w.fs.cacheKey device) = some (vk, t))
    (htime : w.now + o.elapsed - t < volumeKeyCacheTtl) :
    exec who (Cmd.cacheGet device) o w = (some vk, { w with now := w.now + o.elapsed }) := by
  simp only [exec, answer, World.cacheGet, World.cachedKey, hentry, live, if_pos htime]

/-- The key is found in the cache: the other credentials are not looked at. -/
lemma open_cached (hh : w.header device = some h) (hname : validMapperName name = true)
    (hfree : w.mappings name = none) (hos : ∀ n, (os n).fault = none) {unlockMethod : String}
    (hmethod : validUnlockMethod unlockMethod = true) (passphrase unlockPin : String) {t : ℕ}
    (hentry : w.cache (w.fs.cacheKey device) = some (h.volumeKey, t))
    (htime : w.now + (os 0).elapsed + (os 1).elapsed - t < volumeKeyCacheTtl) :
    OpensUnder device name w
      ((opOpenVolume device name passphrase unlockMethod unlockPin).run (exec none) os w) := by
  refine open_of_key hh hname hfree hos (v := { w with
    now := w.now + (os 0).elapsed + (os 1).elapsed }) ?_ ⟨rfl, rfl, rfl⟩
  have hhit := @cacheGet_hit none { w with now := w.now + (os 0).elapsed } device _ _ (os 1) hentry
    htime
  rw [getVolumeKey, if_pos hmethod]
  show Prog.run _ (Prog.bind (Prog.ret (exec none (Cmd.cacheGet device) (os 1) _).1) _) _
    (exec none (Cmd.cacheGet device) (os 1) _).2 = _
  rw [hhit]
  rfl

/-- `get_volume_key` with a passphrase that opens a keyslot, when the cache has nothing wrong. -/
lemma getVolumeKey_passphrase {who : Option ℕ} (hh : w.header device = some h)
    (hw : w.AgreesAt ⟨w.fs, device⟩) {passphrase : String} {k : ℕ}
    (hopens : h.opens (asBytes passphrase) k = true)
    (unlockPin : String) :
    (getVolumeKey device "passphrase" passphrase unlockPin).wp (exec who) (fun o => o.fault = none)
      (fun x w' => x = Except.ok h.volumeKey ∧ w.SameDisk w') w := by
  refine Prog.wp_mono (fun x v hx => ⟨hx.1, hx.2.1.disk⟩) (Prog.wp_and ?_
    (getVolumeKey_key "passphrase" passphrase unlockPin w))
  rw [getVolumeKey, if_pos (by decide)]
  intro o ho
  have hsame := @exec_readsOn device who (Cmd.cacheGet device) rfl o w
  cases hget : (exec who (Cmd.cacheGet device) o w).1 with
  | some vk =>
      obtain ⟨h', hh', hvk⟩ := keyIn_eq_some.mp (hw vk (cacheGet_some hget))
      obtain rfl : h' = h := Option.some.inj (hh'.symm.trans hh)
      rw [hvk]
      rfl
  | none =>
      show ((coldVolumeKey device "passphrase" passphrase unlockPin).bind _).wp _ _ _ _
      rw [coldVolumeKey, if_neg (by simp)]
      refine Prog.wp_bind (Prog.wp_bind (Prog.wp_mono (fun x v hx => ?_) (openLuks2_spec _)))
      obtain ⟨hsame', hx⟩ := hx
      cases x with
      | error e =>
          rcases hx with hf | hnone
          · exact absurd hf not_faulty_quiet
          · rw [hsame.header device, hh] at hnone
            cases hnone
      | ok loaded =>
          obtain rfl : loaded = h := by
            rw [hsame.header device, hh] at hx
            exact (Option.some.inj hx).symm
          intro o' ho'
          rcases loaded.keyAt_any o' (asBytes passphrase) with ⟨i, -, hkey⟩ | ⟨hnone, -⟩
          · have hgot : (exec who (Cmd.volumeKeyGet loaded none (asBytes passphrase)) o' v).1
                = Except.ok (i, loaded.volumeKey) := by
              simp [exec, answer, Oracle.unlessFault, ho', Except.bind, hkey]
            show Prog.wp _ _ _ ((orFail (exec who (Cmd.volumeKeyGet loaded none _) o' v).1 _).bind _) _
            rw [hgot]
            exact fun _ _ => rfl
          · rw [hnone k] at hopens
            cases hopens

/-- With a passphrase that opens a keyslot the volume opens at any time. -/
lemma open_passphrase (hh : w.header device = some h) (hw : w.AgreesAt ⟨w.fs, device⟩)
    (hname : validMapperName name = true) (hfree : w.mappings name = none)
    (hos : ∀ n, (os n).fault = none) {passphrase : String} {k : ℕ}
    (hopens : h.opens (asBytes passphrase) k = true) (unlockPin : String) :
    OpensUnder device name w
      ((opOpenVolume device name passphrase "passphrase" unlockPin).run (exec none) os w) := by
  have hw' : World.AgreesAt { w with now := w.now + (os 0).elapsed } ⟨w.fs, device⟩ :=
    fun vk hlive => hw vk (live_of_later (Nat.le_add_right _ _) hlive)
  obtain ⟨hkey, hsame⟩ := Prog.wp_sound (@getVolumeKey_passphrase device
    { w with now := w.now + (os 0).elapsed } h none hh hw' passphrase k hopens unlockPin)
    (fun n => os (n + 1)) (fun n => hos (n + 1))
  exact open_of_key hh hname hfree hos (Prod.ext hkey rfl) ⟨hsame.luks, hsame.fs, hsame.mappings⟩

end Opening

/-! ## Unlocked, then opened

Two calls with any others between them.  The cases of the theorem are the two ways in which the
second call can come by the key.
-/

section Theorems

variable {views : Views} {w : World} {calls : ℕ → ServiceCall}

/-- The service after a schedule of these calls. -/
def ServiceAfter (views : Views) (w : World) (calls : ℕ → ServiceCall) (sched : List (ℕ × Oracle)) :
    ServicePool :=
  (CallsFrom w calls).serveIn views sched

/-- And the world. -/
def worldAfter (views : Views) (w : World) (calls : ℕ → ServiceCall) (sched : List (ℕ × Oracle)) :
    World :=
  (ServiceAfter views w calls sched).state.state

/-- The world in which a call is served that comes after a schedule of others, as that call sees it. -/
def facedAfter (views : Views) (w : World) (calls : ℕ → ServiceCall) (sched : List (ℕ × Oracle))
    (fs : FileSystem) : World :=
  (worldAfter views w calls sched).through fs

/-- A call that sees the place finds its header by the path. -/
lemma header_faced (p : VolumePlace) (sched : List (ℕ × Oracle)) :
    (facedAfter views w calls sched p.fs).header p.path
      = p.headerIn (worldAfter views w calls sched) := rfl

/-- The places of the calls. -/
def VolumePlaces (views : Views) (calls : ℕ → ServiceCall) : Set VolumePlace :=
  {p | ∃ i, (calls i).device = some p.path ∧ p.fs = views i}

lemma serving_after (hcalls : ∀ i, (calls i).InPlace) (sched : List (ℕ × Oracle)) :
    (ServiceAfter views w calls sched).Serving views w calls :=
  (serving_callsFrom hcalls).serve sched

lemma serviceAfter_append (sched later : List (ℕ × Oracle)) :
    ServiceAfter views w calls (sched ++ later)
      = (ServiceAfter views w calls sched).serveIn views later :=
  Pool.run_append _ _ _ _

/-- The key of a place is the same after any schedule. -/
lemma keyIn_after (hcalls : ∀ i, (calls i).InPlace) (sched : List (ℕ × Oracle)) (p : VolumePlace) :
    p.keyIn (worldAfter views w calls sched) = p.keyIn w :=
  (serving_after hcalls sched).1.keyIn p

/-- What every command of such calls keeps holds after any schedule. -/
lemma kept_after {J : ServiceJournal → Prop} (hcalls : ∀ i, (calls i).InPlace)
    (hstep : ∀ i c o j, Coherent views calls w j → J j → (calls i).Issues c →
      KeyRule (calls i).Verifies c (own i j.log) → J (journaled (viewExec views) i c o j).2)
    (hJ : J ⟨w, []⟩) (sched : List (ℕ × Oracle)) : J (ServiceAfter views w calls sched).state :=
  (serving_callsFrom hcalls).keeps hstep hJ sched

/-- **The cache goes on agreeing with the disk** at a place whose name stands for one file. -/
lemma agreesAt_after {p : VolumePlace} (hw : w.AgreesAt p) (hp : p.Unambiguous views calls)
    (hcalls : ∀ i, (calls i).InPlace) (sched : List (ℕ × Oracle)) :
    (worldAfter views w calls sched).AgreesAt p :=
  kept_after (J := fun j => j.state.AgreesAt p) hcalls
    (fun _ _ _ _ hj hagrees hc hrule => hj.agreesAt hagrees hp hc hrule) hw sched

/-- What was cached under the name of such a place is cached still, while it may be. -/
lemma stillCached_after {p : VolumePlace} (hp : p.Unambiguous views calls)
    (hcalls : ∀ i, (calls i).InPlace) (sched : List (ℕ × Oracle)) :
    StillCached views p (ServiceAfter views w calls sched).state :=
  kept_after hcalls (fun _ _ _ _ hj hstill hc hrule => hstill.step hj hp hc hrule)
    (fun e he => by cases he) sched

/-- A keyslot that no call is to wipe stands in every header that was loaded with it. -/
lemma standing_after {obj k : ℕ} (hspare : ∀ i, (calls i).Spares (views i) obj k)
    (hcalls : ∀ i, (calls i).InPlace) (sched : List (ℕ × Oracle)) :
    Standing views obj k (ServiceAfter views w calls sched).state :=
  kept_after hcalls (fun i _ _ _ _ hstanding hc _ => hstanding.step hc (hspare i))
    (fun e he => by cases he) sched

/-- What the calls were handed from the cache so far is right. -/
def HandedRight (views : Views) (w₀ : World) (j : ServiceJournal) : Prop :=
  ∀ e ∈ j.log, ∀ device vk, ServiceEvent.what e = ⟨Cmd.cacheGet device, some vk⟩ →
    (VolumePlace.mk (views e.thread) device).keyIn w₀ = some vk

/-- **One command** is handed the right key, if the cache agrees with the disk at its place. -/
lemma HandedRight.step {i : ℕ} {c : Cmd} {o : Oracle} {j : ServiceJournal}
    (h : HandedRight views w j) (hj : Coherent views calls w j)
    (hagrees : ∀ p ∈ VolumePlaces views calls, j.state.AgreesAt p) (hc : (calls i).Issues c) :
    HandedRight views w (journaled (viewExec views) i c o j).2 := by
  intro e he device vk hwhat
  rcases List.mem_cons.mp he with rfl | he
  · obtain rfl : c = Cmd.cacheGet device := congrArg Sigma.fst hwhat
    have hget : (exec (some i) (Cmd.cacheGet device) o (j.state.through (views i))).1 = some vk := by
      simpa [ServiceEvent.what, viewExec] using hwhat
    have hplace : VolumePlace.mk (views i) device ∈ VolumePlaces views calls :=
      ⟨i, hc.keyPath device rfl, rfl⟩
    rw [← hj.keyIn]
    exact hagrees _ hplace vk (cacheGet_some hget)
  · exact h e he device vk hwhat

/-- **Keys from the cache are current, whatever runs beside.**  Calls that format nothing, any number of
them, each in its own file system, are on places whose names stand for one file each.  From a cache that
agrees with the disk there, every schedule, with any faults and any timing, ends with such a cache; and
every key that any call was handed from it is the volume key of the header that its place leads to. -/
theorem concurrent_keys_current (hw : ∀ p ∈ VolumePlaces views calls, w.AgreesAt p)
    (hplaces : ∀ p ∈ VolumePlaces views calls, p.Unambiguous views calls)
    (hcalls : ∀ i, (calls i).InPlace) (sched : List (ℕ × Oracle)) :
    (∀ p ∈ VolumePlaces views calls, (worldAfter views w calls sched).AgreesAt p)
      ∧ ∀ e ∈ (ServiceAfter views w calls sched).state.log, ∀ device vk,
        ServiceEvent.what e = ⟨Cmd.cacheGet device, some vk⟩ →
          ∃ h, (VolumePlace.mk (views e.thread) device).headerIn (worldAfter views w calls sched) = some h
            ∧ h.volumeKey = vk := by
  refine ⟨fun p hp => agreesAt_after (hw p hp) (hplaces p hp) hcalls sched, ?_⟩
  intro e he device vk hwhat
  obtain ⟨-, hhanded⟩ := kept_after
    (J := fun j => (∀ p ∈ VolumePlaces views calls, j.state.AgreesAt p) ∧ HandedRight views w j) hcalls
    (fun i c o j hj hJ hc hrule => ⟨fun p hp => hj.agreesAt (hJ.1 p hp) (hplaces p hp) hc hrule,
      hJ.2.step hj hJ.1 hc⟩)
    ⟨hw, fun e he => by cases he⟩ sched
  rw [← keyIn_eq_some, keyIn_after hcalls]
  exact hhanded e he device vk hwhat

/-- A passphrase is verified, a keyslot is wiped with the other passphrase, and the cache is looked
at. -/
def verifyBesideWipe (slot : I32) : ℕ → ServiceCall
  | 0 => ServiceCall.volume "/dev/sdb1" (VolumeOp.verifyPassphrase "pw")
  | 1 => ServiceCall.volume "/dev/sdb1" (VolumeOp.wipeSlot "pw2" "passphrase" "" slot)
  | _ => ServiceCall.volume "/dev/sdb1" VolumeOp.isVolumeKeyCached

lemma verifyBesideWipe_inPlace (slot : I32) (i : ℕ) : (verifyBesideWipe slot i).InPlace := by
  rcases i with _ | _ | i <;> trivial

lemma twoPassphrases_cacheAgrees : twoPassphrases.CacheAgrees := by
  intro p vk hlive
  cases hlive

/-- The calls see one file system. -/
def oneView : Views := fun _ => twoPassphrases.fs

/-- With one file system for all calls a name stands for one file. -/
lemma oneView_unambiguous (calls : ℕ → ServiceCall) (path : String) :
    (VolumePlace.mk twoPassphrases.fs path).Unambiguous oneView calls :=
  unambiguous_of_view fun _ => rfl

/-- The wipe begins, the passphrase is verified, the wipe goes on, and the cache is looked at. -/
def verifyWithinWipe : List (ℕ × Oracle) :=
  List.replicate 3 (1, Oracle.quiet) ++ List.replicate 4 (0, Oracle.quiet)
    ++ List.replicate 12 (1, Oracle.quiet) ++ [(2, Oracle.quiet)]

/-- The look at the cache is handed the right key, though the keyslot is gone that it came from. -/
theorem handed_key_current :
    ∃ h, (VolumePlace.mk twoPassphrases.fs "/dev/sdb1").headerIn
        (worldAfter oneView twoPassphrases (verifyBesideWipe ⟨0, i32_zero⟩) verifyWithinWipe) = some h
      ∧ h.volumeKey = ⟨[7]⟩ := by
  obtain ⟨-, hhanded⟩ := @concurrent_keys_current oneView twoPassphrases
    (verifyBesideWipe ⟨0, i32_zero⟩)
    (by
      rintro ⟨fs, path⟩ ⟨i, -, rfl⟩
      exact agreesAt_of_cacheAgrees twoPassphrases_cacheAgrees path)
    (by
      rintro ⟨fs, path⟩ ⟨i, -, rfl⟩
      exact oneView_unambiguous _ path)
    (verifyBesideWipe_inPlace ⟨0, i32_zero⟩) verifyWithinWipe
  obtain ⟨e, he, hwhat⟩ : ∃ e ∈ (ServiceAfter oneView twoPassphrases (verifyBesideWipe ⟨0, i32_zero⟩)
      verifyWithinWipe).state.log, ServiceEvent.what e = ⟨Cmd.cacheGet "/dev/sdb1", some ⟨[7]⟩⟩ :=
    ⟨_, List.mem_cons_self .., rfl⟩
  exact hhanded e he "/dev/sdb1" ⟨[7]⟩ hwhat

/-- A call that said yes has cached the key of its device. -/
lemma confirmed_cached {p : ServicePool} (hp : p.Serving views w calls) {i : ℕ} {device : String}
    {m : VolumeOp} (hcall : calls i = ServiceCall.volume device m) (hm : m.Unlocks) {slot : ℤ}
    (hanswer : p.threads i = Prog.ofExcept (Except.ok (some (Answer.found true slot)))) :
    UnlockHistory device m slot (own i p.state.log) := by
  have hsays := hp.answered hanswer
  rw [hcall] at hsays
  exact hsays hm slot rfl

/-- **For two minutes an unlocked volume opens.**  When one of the two unlocking calls has said yes, its
key was cached at some time; and from then on, after every further schedule of calls that format nothing,
an `OpenVolume` that looks the key up within 120 seconds of that time maps the volume, under any free
name and with any credentials, from any place with the same name in the cache, if that name stands for
one file. -/
theorem confirmed_opens (hcalls : ∀ i, (calls i).InPlace) (sched later : List (ℕ × Oracle)) {i : ℕ}
    {device : String} {m : VolumeOp} (hcall : calls i = ServiceCall.volume device m) (hm : m.Unlocks)
    {slot : ℤ} (hanswer : (ServiceAfter views w calls sched).threads i
      = Prog.ofExcept (Except.ok (some (Answer.found true slot)))) :
    ∃ e ∈ (ServiceAfter views w calls sched).state.log, e.thread = i
      ∧ (∃ vk, e.cmd = Cmd.cacheInsert device vk)
      ∧ ∀ (p : VolumePlace) (name passphrase unlockMethod unlockPin : String) (os : ℕ → Oracle),
        (views i).cacheKey device = p.name → p.Unambiguous views calls →
        validMapperName name = true → validUnlockMethod unlockMethod = true →
        (∀ n, (os n).fault = none) →
        (worldAfter views w calls (sched ++ later)).mappings name = none →
        (worldAfter views w calls (sched ++ later)).now + (os 0).elapsed + (os 1).elapsed
            < e.state.now + volumeKeyCacheTtl →
          OpensUnder p.path name (facedAfter views w calls (sched ++ later) p.fs)
            ((opOpenVolume p.path name passphrase unlockMethod unlockPin).run (exec none) os
              (facedAfter views w calls (sched ++ later) p.fs)) := by
  have hserving : (ServiceAfter views w calls sched).Serving views w calls := serving_after hcalls sched
  obtain ⟨⟨vk, hinserted⟩, -⟩ := confirmed_cached hserving hcall hm hanswer
  obtain ⟨e, he, rfl, hwhat⟩ := mem_own.mp hinserted
  have hcmd : e.cmd = Cmd.cacheInsert device vk := congrArg Sigma.fst hwhat
  refine ⟨e, he, rfl, ⟨vk, hcmd⟩, ?_⟩
  intro p name passphrase unlockMethod unlockPin os hcache hp hname hmethod hos hfree htime
  -- the key is still in the cache
  have hlog := hserving.mem_log he later
  have hstill : StillCached views p (ServiceAfter views w calls (sched ++ later)).state :=
    stillCached_after hp hcalls _
  rw [← serviceAfter_append] at hlog
  have hentry : EntryKept p vk e.state.now (ServiceAfter views w calls (sched ++ later)).state :=
    hstill e hlog device vk hcmd hcache
  have hpositive : 0 < volumeKeyCacheTtl := by decide
  have hnow : (ServiceAfter views w calls (sched ++ later)).state.state.now
      < e.state.now + volumeKeyCacheTtl := by
    change (worldAfter views w calls (sched ++ later)).now < _
    omega
  obtain ⟨t, ht, hcached⟩ := hentry.entry hnow
  -- and it is the key of the header
  have hkey : p.keyIn (worldAfter views w calls (sched ++ later)) = some vk := by
    have hdevice : (calls e.thread).device = some device := by rw [hcall]; rfl
    rw [keyIn_after hcalls, ← (hserving.1.sound e he).inserted device vk hcmd]
    exact keyIn_of_node (hp e.thread device hdevice hcache).symm
  obtain ⟨h, hh, rfl⟩ := keyIn_eq_some.mp hkey
  rw [← header_faced] at hh
  refine open_cached hh hname hfree hos hmethod passphrase unlockPin hcached ?_
  show (worldAfter views w calls (sched ++ later)).now + (os 0).elapsed + (os 1).elapsed - t
    < volumeKeyCacheTtl
  omega

/-- One more look at the cache, so much later. -/
def lookLater (elapsed : ℕ) : List (ℕ × Oracle) := [(3, { elapsed := elapsed })]

/-- The keyslot of the passphrase is gone, and the TPM is not asked: 119 seconds later the volume
opens. -/
theorem wiped_secret_opens :
    OpensUnder "/dev/sdb1" "luks-a"
      (facedAfter oneView twoPassphrases (verifyBesideWipe ⟨0, i32_zero⟩)
        (verifyWithinWipe ++ lookLater 119000000000) twoPassphrases.fs)
      ((opOpenVolume "/dev/sdb1" "luks-a" "" tokenTypeTpm2 "").run (exec none)
        (fun _ => Oracle.quiet) (facedAfter oneView twoPassphrases (verifyBesideWipe ⟨0, i32_zero⟩)
          (verifyWithinWipe ++ lookLater 119000000000) twoPassphrases.fs)) := by
  obtain ⟨e, -, -, -, hopens⟩ := @confirmed_opens oneView twoPassphrases _
    (verifyBesideWipe_inPlace ⟨0, i32_zero⟩) verifyWithinWipe (lookLater 119000000000)
    0 "/dev/sdb1" _ rfl trivial 0 rfl
  refine hopens ⟨twoPassphrases.fs, "/dev/sdb1"⟩ "luks-a" "" tokenTypeTpm2 ""
    (fun _ => Oracle.quiet) rfl (oneView_unambiguous _ _) (by decide) (by decide) (fun _ => rfl) rfl ?_
  have hnow : (worldAfter oneView twoPassphrases (verifyBesideWipe ⟨0, i32_zero⟩)
      (verifyWithinWipe ++ lookLater 119000000000)).now = 119000000000 := rfl
  have hquiet : Oracle.quiet.elapsed = 0 := rfl
  rw [hnow, hquiet, volumeKeyCacheTtl]
  omega

/-- A passphrase that was accepted opens its keyslot of the header as long as no call wipes it. -/
lemma accepted_keyslot_stands (hcalls : ∀ i, (calls i).InPlace) (sched later : List (ℕ × Oracle))
    {i obj k : ℕ} {device passphrase : String}
    (hcall : calls i = ServiceCall.volume device (VolumeOp.verifyPassphrase passphrase))
    (hanswer : (ServiceAfter views w calls sched).threads i
      = Prog.ofExcept (Except.ok (some (Answer.found true k))))
    (hnode : (views i).node device = some obj) (hspare : ∀ i, (calls i).Spares (views i) obj k) :
    ∃ h, (worldAfter views w calls (sched ++ later)).luks obj = some h
      ∧ h.opens (asBytes passphrase) k = true := by
  have hserving : (ServiceAfter views w calls sched).Serving views w calls := serving_after hcalls sched
  obtain ⟨-, hpassphrase⟩ := confirmed_cached hserving hcall trivial hanswer
  obtain ⟨loaded, vk, k', hk', hload, hget⟩ := hpassphrase passphrase rfl
  obtain rfl : k = k' := by omega
  obtain ⟨e, he, rfl, hwhat⟩ := mem_own.mp hload
  obtain ⟨e', he', -, hwhat'⟩ := mem_own.mp hget
  -- the keyslot that the passphrase opened when the header was loaded
  have hopened := ((hserving.1.sound e' he').gets loaded none (asBytes passphrase) (k, vk) hwhat').2
  cases hks : loaded.keyslots k with
  | none => simp [Header.opens, hks] at hopened
  | some ks =>
      have hlog := hserving.mem_log he later
      have hstanding : Standing views obj k (ServiceAfter views w calls (sched ++ later)).state :=
        standing_after hspare hcalls _
      rw [← serviceAfter_append] at hlog
      obtain ⟨h, hh, hks'⟩ := hstanding e hlog device loaded ks hwhat hnode hks
      refine ⟨h, hh, ?_⟩
      rw [Header.opens, hks']
      rw [Header.opens, hks] at hopened
      exact hopened

/-- **An accepted passphrase goes on opening the volume.**  When `VerifyPassphrase` has named a keyslot
of the volume on an object, then after every further schedule, for as long as it takes, of calls that
format nothing and do not wipe that keyslot, an `OpenVolume` with the passphrase maps the volume under any
free name, from any place that leads to the object, if the name of that place stands for one file and
nothing else was cached under it at the start. -/
theorem confirmed_passphrase_opens (hcalls : ∀ i, (calls i).InPlace)
    (sched later : List (ℕ × Oracle)) {i obj k : ℕ} {device passphrase : String}
    (hcall : calls i = ServiceCall.volume device (VolumeOp.verifyPassphrase passphrase))
    (hanswer : (ServiceAfter views w calls sched).threads i
      = Prog.ofExcept (Except.ok (some (Answer.found true k))))
    (hnode : (views i).node device = some obj) (hspare : ∀ i, (calls i).Spares (views i) obj k)
    {p : VolumePlace} (hpath : p.node = some obj) (hp : p.Unambiguous views calls) (hw : w.AgreesAt p)
    {name : String} (hname : validMapperName name = true)
    (hfree : (worldAfter views w calls (sched ++ later)).mappings name = none)
    (unlockPin : String) {os : ℕ → Oracle} (hos : ∀ n, (os n).fault = none) :
    OpensUnder p.path name (facedAfter views w calls (sched ++ later) p.fs)
      ((opOpenVolume p.path name passphrase "passphrase" unlockPin).run (exec none) os
        (facedAfter views w calls (sched ++ later) p.fs)) := by
  obtain ⟨h, hh, hopens⟩ := accepted_keyslot_stands hcalls sched later hcall hanswer hnode hspare
  have hheader : (facedAfter views w calls (sched ++ later) p.fs).header p.path = some h := by
    rw [header_faced, VolumePlace.headerIn, hpath]
    exact hh
  exact open_passphrase hheader (agreesAt_after hw hp hcalls _) hname hfree hos hopens unlockPin

/-- Ten minutes after the other keyslot was wiped. -/
theorem spared_passphrase_opens :
    OpensUnder "/dev/sdb1" "luks-a"
      (facedAfter oneView twoPassphrases (verifyBesideWipe ⟨1, i32_one⟩)
        (verifyWithinWipe ++ lookLater 600000000000) twoPassphrases.fs)
      ((opOpenVolume "/dev/sdb1" "luks-a" "pw" "passphrase" "").run (exec none)
        (fun _ => Oracle.quiet) (facedAfter oneView twoPassphrases (verifyBesideWipe ⟨1, i32_one⟩)
          (verifyWithinWipe ++ lookLater 600000000000) twoPassphrases.fs)) := by
  have hspare : ∀ i, (verifyBesideWipe ⟨1, i32_one⟩ i).Spares (oneView i) 0 0 := by
    intro i device slot hwipes hslot
    rcases i with _ | _ | i
    · cases hwipes
    · obtain ⟨-, rfl⟩ := Prod.mk.inj (Option.some.inj hwipes)
      cases hslot
    · cases hwipes
  exact @confirmed_passphrase_opens oneView twoPassphrases _
    (verifyBesideWipe_inPlace ⟨1, i32_one⟩) verifyWithinWipe (lookLater 600000000000)
    0 0 0 "/dev/sdb1" "pw" rfl rfl rfl hspare ⟨twoPassphrases.fs, "/dev/sdb1"⟩ rfl
    (oneView_unambiguous _ _) (agreesAt_of_cacheAgrees twoPassphrases_cacheAgrees _) "luks-a"
    (by decide) rfl "" (fun _ => Oracle.quiet) fun _ => rfl

end Theorems

end LuksEnroll
