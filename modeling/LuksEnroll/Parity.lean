import LuksEnroll.Descriptors
import LuksEnroll.Writability
import LuksEnroll.Library.Matching

/-!
# By path and by descriptor

A method on a volume and its `*Fd` twin run the same function, one on the canonical path of the file,
the other on the descriptor's path.  Almost nothing in these functions looks at the text of the path:
the kernel finds the file under both, and the cache of volume keys is asked under the canonical path
in both cases.

What can come between the two is the mount.  The unit runs the service with `ProtectSystem=strict` and
`ProtectHome=read-only`, so that a path into `/home` leads through a mount that refuses writes, while a
descriptor keeps the mount of the process that opened it.  `mountedExec` is the service as it opens
files by path; `Writability` says for which methods and in which states a write is at stake.

**Parity.**  Thirteen of the fourteen pairs answer alike and leave the same state behind, on the same
inputs of the environment, if the file is on a mount that the service may write to; on a read-only one
they do so unless the method is in a position to write to the header.  `GetDeviceInfo` differs on every
file: its answer repeats the path it was given, and looks for the file's disk and mount point under
that path's text (`device_info_differs`).

Two spellings of a device reach the same object and share a cache key.  `Alike` says that two programs,
run on the same inputs in a world with this file system, answer alike and leave the same world.  There
is one lemma for each command that names a device and one for each function of the source above it, in
the order of the source; all others of the commands do not see the spelling at all (`alike_self`).
-/

namespace LuksEnroll

open Library
open Prog (AllCalls Matches)

/-! ## Two spellings of a device

Commands first, then the functions of the source from the innermost.  The two programs are the same
but for the name of the device, and every command answers alike under both.
-/

/-- Two paths that reach the same object and have the same cache key. -/
structure Spellings (fs : FileSystem) (d d' : String) : Prop where
  node : fs.node d = fs.node d'
  key : fs.cacheKey d = fs.cacheKey d'

/-- The same program on either spelling, in the same file system. -/
abbrev Alike (who : Option ℕ) (fs : FileSystem) {α : Type} (p q : Op α) : Prop :=
  p.Matches (exec who) (fun w => w.fs = fs) q

section Spellings

variable {who : Option ℕ} {fs : FileSystem} {d d' : String} {α : Type}

/-! Commands. -/

/-- The cache is asked under the canonical path. -/
lemma alike_cacheGet (h : Spellings fs d d') :
    Alike who fs (ask (Cmd.cacheGet d) : Op (Option VolumeKey)) (ask (Cmd.cacheGet d')) := by
  refine ⟨_, _, rfl, fun o w hw => ?_⟩
  have hkey : w.fs.cacheKey d = w.fs.cacheKey d' := by rw [hw, h.key]
  have heq : World.cacheGet { w with now := w.now + o.elapsed } d
      = World.cacheGet { w with now := w.now + o.elapsed } d' := by
    simp [World.cacheGet, World.cachedKey, hkey]
  refine ⟨congrArg Prod.snd heq, ?_, ?_⟩
  · exact (cacheGet_sameDisk _ d).fs.trans hw
  · rw [show (exec who (Cmd.cacheGet d) o w).1 = (exec who (Cmd.cacheGet d') o w).1 from
      congrArg Prod.fst heq]
    rfl

/-- A key is cached under the canonical path. -/
lemma alike_cacheInsert (h : Spellings fs d d') (vk : VolumeKey) :
    Alike who fs (ask (Cmd.cacheInsert d vk) : Op Unit) (ask (Cmd.cacheInsert d' vk)) := by
  refine ⟨_, _, rfl, fun o w hw => ⟨?_, hw, rfl⟩⟩
  have hkey : w.fs.cacheKey d = w.fs.cacheKey d' := by rw [hw, h.key]
  have hnode : w.fs.node d = w.fs.node d' := by rw [hw, h.node]
  simp [exec, answer, World.cacheInsert, hkey, hnode]

lemma alike_init (h : Spellings fs d d') :
    Alike who fs (ask (Cmd.init d) : Op (Except String Unit)) (ask (Cmd.init d')) := by
  refine ⟨_, _, rfl, fun o w hw => ⟨rfl, hw, ?_⟩⟩
  have hnode : w.fs.node d = w.fs.node d' := by rw [hw, h.node]
  have hexists : w.fs.pathExists d = w.fs.pathExists d' := by
    rw [FileSystem.pathExists, hnode, FileSystem.pathExists]
  have heq : (if w.fs.pathExists d then o.unlessFault () else Except.error o.text)
      = if w.fs.pathExists d' then o.unlessFault () else Except.error o.text := by rw [hexists]
  rw [show (exec who (Cmd.init d) o w).1 = (exec who (Cmd.init d') o w).1 from heq]
  rfl

/-- `crypt_load` reads the header of the object. -/
lemma alike_load (h : Spellings fs d d') :
    Alike who fs (ask (Cmd.load d) : Op (Except String Header)) (ask (Cmd.load d')) := by
  refine ⟨_, _, rfl, fun o w hw => ⟨rfl, hw, ?_⟩⟩
  have hnode : w.fs.node d = w.fs.node d' := by rw [hw, h.node]
  rw [show (exec who (Cmd.load d) o w).1 = (exec who (Cmd.load d') o w).1 by
    simp [exec, answer, World.load, World.header, hnode]]
  rfl

/-- A header write goes where the kernel finds the file. -/
lemma update_spellings (h : Spellings fs d d') {w : World} (hw : w.fs = fs) (o : Oracle) {β : Type}
    (f : Header → Except String (β × Header)) :
    w.update d o f = w.update d' o f ∧ (w.update d o f).2.fs = fs := by
  have hnode : w.fs.node d = w.fs.node d' := by rw [hw, h.node]
  obtain ⟨luks, hluks⟩ := w.update_stored d o f
  refine ⟨by simp [World.update, hnode], ?_⟩
  rw [hluks]
  exact hw

/-- A keyslot is added to the header of the object. -/
lemma alike_addByKey (h : Spellings fs d d') (vk : Option VolumeKey) (pw : Bytes) :
    Alike who fs (ask (Cmd.addByKey d vk pw) : Op (Except String ℕ))
      (ask (Cmd.addByKey d' vk pw)) := by
  refine ⟨_, _, rfl, fun o w hw => ?_⟩
  obtain ⟨heq, hfs⟩ := @update_spellings fs d d' h { w with now := w.now + o.elapsed } hw o _
    fun g => g.addByKey who o vk pw
  refine ⟨congrArg Prod.snd heq, hfs, ?_⟩
  rw [show (exec who (Cmd.addByKey d vk pw) o w).1 = (exec who (Cmd.addByKey d' vk pw) o w).1 from
    congrArg Prod.fst heq]
  rfl

/-- A token is written to the header of the object. -/
lemma alike_tokenJsonSet (h : Spellings fs d d') (input : TokenInput) :
    Alike who fs (ask (Cmd.tokenJsonSet d input) : Op (Except String ℕ))
      (ask (Cmd.tokenJsonSet d' input)) := by
  refine ⟨_, _, rfl, fun o w hw => ?_⟩
  obtain ⟨heq, hfs⟩ := @update_spellings fs d d' h { w with now := w.now + o.elapsed } hw o _
    fun g => g.jsonSet who o input
  refine ⟨congrArg Prod.snd heq, hfs, ?_⟩
  rw [show (exec who (Cmd.tokenJsonSet d input) o w).1 = (exec who (Cmd.tokenJsonSet d' input) o w).1
    from congrArg Prod.fst heq]
  rfl

/-- A keyslot is destroyed in the header of the object. -/
lemma alike_keyslotDestroy (h : Spellings fs d d') (slot : ℕ) :
    Alike who fs (ask (Cmd.keyslotDestroy d slot) : Op (Except String Unit))
      (ask (Cmd.keyslotDestroy d' slot)) := by
  refine ⟨_, _, rfl, fun o w hw => ?_⟩
  obtain ⟨heq, hfs⟩ := @update_spellings fs d d' h { w with now := w.now + o.elapsed } hw o _
    fun g => g.keyslotDestroy o slot
  refine ⟨congrArg Prod.snd heq, hfs, ?_⟩
  rw [show (exec who (Cmd.keyslotDestroy d slot) o w).1 = (exec who (Cmd.keyslotDestroy d' slot) o w).1
    from congrArg Prod.fst heq]
  rfl

/-- A mapping is made of the object, under the same node. -/
lemma alike_activate (h : Spellings fs d d') (name : String) (vk : VolumeKey) :
    Alike who fs (ask (Cmd.activateByVolumeKey d name vk) : Op (Except String Unit))
      (ask (Cmd.activateByVolumeKey d' name vk)) := by
  refine ⟨_, _, rfl, fun o w hw => ?_⟩
  have hnode : w.fs.node d = w.fs.node d' := by rw [hw, h.node]
  have heq : World.activate { w with now := w.now + o.elapsed } o d name vk
      = World.activate { w with now := w.now + o.elapsed } o d' name vk := by
    simp [World.activate, hnode]
  refine ⟨congrArg Prod.snd heq, ?_, ?_⟩
  · rw [← hw]
    show (World.activate { w with now := w.now + o.elapsed } o d name vk).2.fs = _
    rw [World.activate]
    split
    · rfl
    split
    · rfl
    split
    · rfl
    split_ifs <;> rfl
  · rw [show (exec who (Cmd.activateByVolumeKey d name vk) o w).1
      = (exec who (Cmd.activateByVolumeKey d' name vk) o w).1 from congrArg Prod.fst heq]
    rfl

/-! Functions. -/

lemma alike_ret (a : α) : Alike who fs (Prog.ret a) (Prog.ret a) := rfl

lemma alike_orFail (x : Except String α) (word : String → String) :
    Alike who fs (orFail x word) (orFail x word) := by
  cases x with
  | ok a => rfl
  | error e => rfl

/-- What does not name the device matches itself. -/
lemma alike_self {p : Op α} (hp : p.AllCalls (Cmd.ReadsOn d)) : Alike who fs p p :=
  Matches.of_allCalls (fun _ o _ hc hw => (exec_readsOn hc o _).fs.trans hw) hp

/-- The triple of an operation is made of its result alone. -/
lemma alike_runOp {p q : Op Triple} (hpq : Alike who fs p q) :
    Alike who fs (runOp p) (runOp q) := by
  refine Matches.bind hpq.attempt fun x => ?_
  cases x with
  | ok t => rfl
  | error e => rfl

lemma alike_foundSlot {p q : Op ℕ} (hpq : Alike who fs p q) :
    Alike who fs (foundSlot p) (foundSlot q) := by
  refine Matches.bind hpq.attempt fun x => ?_
  cases x with
  | ok slot => rfl
  | error e => rfl

variable (h : Spellings fs d d')

include h

lemma alike_openLuks2 : Alike who fs (openLuks2 d) (openLuks2 d') :=
  Matches.bind (alike_init h) fun _ => Matches.bind (alike_orFail _ _) fun _ =>
    Matches.bind (alike_load h) fun _ => alike_orFail _ _

lemma alike_metadataJson : Alike who fs (metadataJson d) (metadataJson d') := by
  refine Matches.bind (alike_openLuks2 h).attempt fun x => ?_
  cases x with
  | error e => rfl
  | ok loaded =>
      have hdump : (ask (Cmd.dumpJson loaded)).AllCalls (Cmd.ReadsOn d) := allCalls_ask.mpr trivial
      exact Matches.bind (alike_self hdump) fun _ => alike_ret _

lemma alike_tokenRefs (read : Json → Except String (List α)) :
    Alike who fs (tokenRefs read d) (tokenRefs read d') := by
  refine Matches.bind (alike_metadataJson h) fun x => ?_
  cases x with
  | none => rfl
  | some metadata =>
      show Alike who fs (Prog.ofExcept (read metadata)) (Prog.ofExcept (read metadata))
      cases read metadata with
      | ok refs => rfl
      | error e => rfl

lemma alike_derivePassphraseFromToken (tokenType pin : String) :
    Alike who fs (derivePassphraseFromToken d tokenType pin)
      (derivePassphraseFromToken d' tokenType pin) := by
  refine Matches.bind ?_ fun _ => alike_ret _
  unfold rawTokenSecret
  split_ifs
  · refine Matches.bind (alike_tokenRefs h _) fun refs => ?_
    have hunlock : (ask (Cmd.fido2UnlockFromTokens refs pin)).AllCalls (Cmd.ReadsOn d) :=
      allCalls_ask.mpr trivial
    exact Matches.bind (alike_self hunlock) fun _ => alike_orFail _ _
  · refine Matches.bind (alike_tokenRefs h _) fun refs => ?_
    have hunseal : (ask (Cmd.tpm2UnsealFromTokens refs pin)).AllCalls (Cmd.ReadsOn d) :=
      allCalls_ask.mpr trivial
    exact Matches.bind (alike_self hunseal) fun _ => alike_orFail _ _
  · rfl

/-- Extracting the volume key by a token's passphrase. -/
lemma alike_extractTokenVolumeKey (tokenType : String) (pw : Bytes) :
    Alike who fs (extractTokenVolumeKey d tokenType pw) (extractTokenVolumeKey d' tokenType pw) := by
  refine Matches.bind (alike_openLuks2 h) fun loaded => ?_
  have hdump : (ask (Cmd.dumpJson loaded)).AllCalls (Cmd.ReadsOn d) := allCalls_ask.mpr trivial
  refine Matches.bind (alike_self hdump) fun metadata => ?_
  exact alike_self (reads_of_looks (@tryCandidates_looks d loaded pw _ _))

lemma alike_coldVolumeKey (unlockMethod passphrase unlockPin : String) :
    Alike who fs (coldVolumeKey d unlockMethod passphrase unlockPin)
      (coldVolumeKey d' unlockMethod passphrase unlockPin) := by
  unfold coldVolumeKey
  split_ifs
  · refine Matches.bind (alike_derivePassphraseFromToken h _ _) fun pw => ?_
    exact Matches.bind ((alike_extractTokenVolumeKey h _ _).mapErr _) fun _ => alike_ret _
  · refine Matches.bind (alike_openLuks2 h) fun loaded => ?_
    have hget : (ask (Cmd.volumeKeyGet loaded none (asBytes passphrase))).AllCalls
        (Cmd.ReadsOn d) := allCalls_ask.mpr trivial
    exact Matches.bind (alike_self hget) fun _ =>
      Matches.bind (alike_orFail _ _) fun _ => alike_ret _

lemma alike_getVolumeKey (unlockMethod passphrase unlockPin : String) :
    Alike who fs (getVolumeKey d unlockMethod passphrase unlockPin)
      (getVolumeKey d' unlockMethod passphrase unlockPin) := by
  unfold getVolumeKey
  split_ifs
  · refine Matches.bind (alike_cacheGet h) fun cached => ?_
    cases cached with
    | some vk => rfl
    | none =>
        refine Matches.bind (alike_coldVolumeKey h _ _ _) fun vk => ?_
        exact Matches.bind (alike_cacheInsert h vk) fun _ => alike_ret _
  · rfl

lemma alike_verifyPassphrase (passphrase : String) :
    Alike who fs (verifyPassphrase d passphrase) (verifyPassphrase d' passphrase) := by
  refine Matches.bind (alike_openLuks2 h) fun loaded => ?_
  have hget : (ask (Cmd.volumeKeyGet loaded none (asBytes passphrase))).AllCalls
      (Cmd.ReadsOn d) := allCalls_ask.mpr trivial
  refine Matches.bind (alike_self hget) fun _ => Matches.bind (alike_orFail _ _) fun found => ?_
  exact Matches.bind (alike_cacheInsert h found.2) fun _ => alike_ret _

lemma alike_verifyToken (tokenType pin : String) :
    Alike who fs (verifyToken d tokenType pin) (verifyToken d' tokenType pin) := by
  unfold verifyToken
  split_ifs
  · rfl
  · refine Matches.bind (alike_derivePassphraseFromToken h _ _) fun pw => ?_
    refine Matches.bind ((alike_extractTokenVolumeKey h _ _).mapErr _) fun found => ?_
    exact Matches.bind (alike_cacheInsert h found.2) fun _ => alike_ret _

lemma alike_activateVolume (name unlockMethod passphrase unlockPin : String) :
    Alike who fs (activateVolume d name unlockMethod passphrase unlockPin)
      (activateVolume d' name unlockMethod passphrase unlockPin) := by
  unfold activateVolume
  split_ifs
  · have hstatus : (ask (Cmd.status name)).AllCalls (Cmd.ReadsOn d) := allCalls_ask.mpr trivial
    refine Matches.bind (alike_self hstatus) fun active => ?_
    cases active with
    | true => rfl
    | false =>
        refine Matches.bind (alike_getVolumeKey h _ _ _) fun vk => ?_
        refine Matches.bind (alike_openLuks2 h) fun _ => ?_
        exact Matches.bind (alike_activate h name vk) fun _ => alike_orFail _ _
  · rfl

lemma alike_setToken (tokenId : ℤ) (tokenJson : Option Json) :
    Alike who fs (setToken d tokenId tokenJson) (setToken d' tokenId tokenJson) :=
  Matches.bind (alike_openLuks2 h) fun _ =>
    Matches.bind (alike_tokenJsonSet h _) fun _ => alike_orFail _ _

lemma alike_addKeyslotByVolumeKey (vk : VolumeKey) (pw : Bytes) (minimalPbkdf : Bool) :
    Alike who fs (addKeyslotByVolumeKey d vk pw minimalPbkdf)
      (addKeyslotByVolumeKey d' vk pw minimalPbkdf) := by
  have hpbkdf := @choosePbkdf_looks d minimalPbkdf
  refine Matches.bind (alike_openLuks2 h) fun _ => ?_
  refine Matches.bind (alike_self (reads_of_looks hpbkdf)) fun _ => ?_
  exact Matches.bind (alike_addByKey h (some vk) pw) fun _ => alike_orFail _ _

/-- The four enrollments, whose preparation looks at the device in the same way. -/
lemma alike_enrollToken {prepare : Op Prepared} (hprepare : prepare.AllCalls (Cmd.ReadsOn d))
    (unlockMethod unlockPin passphrase : String) :
    Alike who fs (enrollToken d unlockMethod unlockPin passphrase prepare)
      (enrollToken d' unlockMethod unlockPin passphrase prepare) := by
  refine Matches.bind (alike_self hprepare) fun prepared => ?_
  refine Matches.bind (alike_getVolumeKey h _ _ _) fun vk => ?_
  refine Matches.bind (alike_addKeyslotByVolumeKey h _ _ _) fun keyslot => ?_
  exact Matches.bind (alike_setToken h _ _) fun _ => alike_ret _

lemma alike_existingCreds : Alike who fs (existingCreds d) (existingCreds d') := by
  refine Matches.bind (alike_tokenRefs h _).attempt fun x => ?_
  cases x with
  | ok refs => rfl
  | error e => rfl

/-- Whether an authenticator holds one of them. -/
lemma alike_alreadyEnrolled (fido2Device : String) :
    Alike who fs (alreadyEnrolled d fido2Device) (alreadyEnrolled d' fido2Device) := by
  refine Matches.bind (alike_existingCreds h) fun creds => ?_
  split_ifs
  · rfl
  · have hpaths : (ask (Cmd.fido2EnrolledPaths [fido2Device] creds)).AllCalls (Cmd.ReadsOn d) :=
      allCalls_ask.mpr trivial
    exact Matches.bind (alike_self hpaths) fun _ => alike_ret _

lemma alike_opCheckFido2Enrolled (paths : List String) :
    Alike who fs (opCheckFido2Enrolled d paths) (opCheckFido2Enrolled d' paths) := by
  refine Matches.bind (alike_existingCreds h) fun creds => ?_
  split_ifs
  · rfl
  · have hpaths : (ask (Cmd.fido2EnrolledPaths paths creds)).AllCalls (Cmd.ReadsOn d) :=
      allCalls_ask.mpr trivial
    exact alike_self hpaths

lemma alike_wipeRest (slot : ℤ) : Alike who fs (wipeRest d slot) (wipeRest d' slot) := by
  have hfind : Alike who fs (findTokenForKeyslot d slot) (findTokenForKeyslot d' slot) :=
    Matches.bind (alike_metadataJson h) fun _ => alike_ret _
  refine Matches.bind hfind fun tokenId => ?_
  refine Matches.bind ?_ fun _ => ?_
  · split_ifs
    · exact Matches.bind (alike_setToken h _ _) fun _ => alike_ret _
    · rfl
  · refine Matches.bind (Matches.bind (alike_openLuks2 h) fun _ => ?_) fun _ => alike_ret _
    exact Matches.bind (alike_keyslotDestroy h _) fun _ => alike_orFail _ _

lemma alike_opWipeSlot (passphrase unlockMethod pin : String) (slot : I32) :
    Alike who fs (opWipeSlot d passphrase unlockMethod pin slot)
      (opWipeSlot d' passphrase unlockMethod pin slot) := by
  have hlist : Alike who fs (listKeyslots d) (listKeyslots d') :=
    Matches.bind (alike_metadataJson h) fun _ => alike_ret _
  refine alike_runOp (Matches.bind (alike_getVolumeKey h _ _ _) fun _ => ?_)
  refine Matches.bind hlist fun slots => ?_
  split_ifs
  · rfl
  · exact alike_wipeRest h slot.val

/-- **The thirteen methods that issue commands**, on either spelling. -/
lemma VolumeOp.alike (m : VolumeOp) : Alike who fs (m.body d) (m.body d') := by
  cases m with
  | getKeyslots =>
      refine Matches.bind (Matches.bind ?_ fun _ => alike_ret _) fun _ => alike_ret _
      exact Matches.bind (alike_metadataJson h) fun _ => alike_ret _
  | getTokensByType tokenType =>
      refine Matches.bind (Matches.bind (alike_metadataJson h) fun _ => ?_) fun _ => alike_ret _
      exact alike_ret _
  | findPasswordKeyslots =>
      refine Matches.bind (Matches.bind (alike_metadataJson h) fun _ => ?_) fun _ => alike_ret _
      exact alike_ret _
  | isVolumeKeyCached =>
      refine Matches.bind (Matches.bind (alike_cacheGet h) fun _ => ?_) fun _ => alike_ret _
      exact alike_ret _
  | checkFido2Enrolled paths =>
      exact Matches.bind (alike_opCheckFido2Enrolled h paths) fun _ => alike_ret _
  | verifyPassphrase passphrase => exact alike_foundSlot (alike_verifyPassphrase h passphrase)
  | unlockWithToken tokenType pin =>
      simp only [VolumeOp.body]
      split_ifs
      · rfl
      · exact alike_foundSlot (alike_verifyToken h tokenType pin)
  | openVolume name passphrase unlockMethod unlockPin =>
      refine Matches.bind (Matches.bind (alike_activateVolume h _ _ _ _).attempt fun x => ?_)
        fun _ => alike_ret _
      cases x with
      | ok u => rfl
      | error e => rfl
  | enrollFido2 passphrase pin fido2Device unlockMethod unlockPin =>
      refine Matches.bind (alike_runOp (Matches.bind (alike_alreadyEnrolled h fido2Device)
        fun enrolled => ?_)) fun _ => alike_ret _
      cases enrolled with
      | true => rfl
      | false => exact alike_enrollToken h (reads_of_looks (prepareFido2_looks _ _)) _ _ _
  | enrollTpm2 passphrase pin pcrs unlockMethod unlockPin =>
      refine Matches.bind (alike_runOp ?_) fun _ => alike_ret _
      exact alike_enrollToken h (reads_of_looks (prepareTpm2_looks _ _)) _ _ _
  | enrollRecoveryKey passphrase unlockMethod unlockPin =>
      refine Matches.bind (alike_runOp ?_) fun _ => alike_ret _
      exact alike_enrollToken h (reads_of_looks prepareRecoveryKey_looks) _ _ _
  | enrollPassphrase existingPassphrase newPassphrase unlockMethod unlockPin =>
      refine Matches.bind (alike_runOp ?_) fun _ => alike_ret _
      refine Matches.bind (alike_getVolumeKey h _ _ _) fun vk => ?_
      exact Matches.bind (alike_addKeyslotByVolumeKey h _ _ _) fun _ => alike_ret _
  | wipeSlot passphrase unlockMethod pin slot =>
      exact Matches.bind (alike_opWipeSlot h _ _ _ _) fun _ => alike_ret _

end Spellings

/-! ## The pairs

The path of a file and the path of its descriptor are two spellings.  A write by path may be refused
by the mount, which is the one thing that the spellings do not share.
-/

/-- A regular file, its canonical path, and a descriptor of it whose path resolves to that one.  No
canonical path goes through `/proc/self`, which is a symbolic link. -/
structure NamedFile (fs : FileSystem) (path : String) (fd file : ℕ) : Prop where
  canonical : fs.canonicalize path = some path
  descriptor : fs.canonicalize (fdPath fd) = some path
  reached : fs.node path = some file
  regular : fs.kind file = FileKind.regular
  proc : path ≠ fdPath fd

/-- A file with a descriptor has two spellings. -/
lemma NamedFile.spellings {fs : FileSystem} {path : String} {fd file : ℕ}
    (h : NamedFile fs path fd file) : Spellings fs path (fdPath fd) where
  node := (fs.canonicalize_node (fdPath fd) path h.descriptor).1
  key := by
    rw [FileSystem.cacheKey, h.canonical, FileSystem.cacheKey, h.descriptor]
    rfl

/-- The method on the path and its twin on the descriptor give the same answer, and have the same
effect on the headers and on the cache, on the same inputs of the environment.  The path is opened
through the mounts of the service, some of which `readOnly` says to be read-only.  The descriptor
leads to the file through the mount on which the caller opened it for writing, and which cannot have
become read-only while it is open. -/
def Parity (probe : Probe) (who : Option ℕ) (readOnly : String → Bool) (w : World) (path : String)
    (fd : ℕ) (m : VolumeMethod) : Prop :=
  ∀ os,
    let byPath := m.serve probe (mountedExec who readOnly) path os w
    let byDescriptor := m.serve probe (exec who) (fdPath fd) os w
    byPath.1 = byDescriptor.1 ∧ byPath.2.luks = byDescriptor.2.luks
      ∧ byPath.2.cache = byDescriptor.2.cache

/-- When a method can write to the header: `VolumeOp.CanWrite`, and never for `GetDeviceInfo`. -/
def VolumeMethod.CanWrite (w : World) (device : String) : VolumeMethod → Prop
  | getDeviceInfo => False
  | op m => m.CanWrite w device

lemma getDeviceInfo_device {probe : Probe} {fs : FileSystem} {d d' : String}
    (h : getDeviceInfo probe fs d = getDeviceInfo probe fs d') : d = d' := by
  simp only [getDeviceInfo, Json.obj.injEq, List.cons.injEq, Prod.mk.injEq, Json.str.injEq] at h
  exact h.1.2

/-- The two ways run alike where the mount does not come in. -/
lemma VolumeOp.run_fdPath {who : Option ℕ} {w : World} {path : String} {fd file : ℕ}
    (h : NamedFile w.fs path fd file) (m : VolumeOp) (os : ℕ → Oracle) :
    (m.body path).run (exec who) os w = (m.body (fdPath fd)).run (exec who) os w := by
  have halike : Alike who w.fs (m.body path) (m.body (fdPath fd)) := m.alike h.spellings
  exact halike.run_eq rfl os

/-- **Parity, and its exceptions.**  For every regular file that its canonical path and a descriptor
lead to, every state of headers and cache, every set of read-only mounts and every method: the two
ways agree in answer and effect exactly unless the method is `GetDeviceInfo`, for which they never do,
or the file's path leads through a read-only mount and the method is one that can write to the header. -/
theorem parity_iff (probe : Probe) (who : Option ℕ) (readOnly : String → Bool) (w : World)
    {path : String} {fd file : ℕ} (h : NamedFile w.fs path fd file) (m : VolumeMethod) :
    Parity probe who readOnly w path fd m
      ↔ m ≠ VolumeMethod.getDeviceInfo ∧ (readOnly path = true → ¬ m.CanWrite w path) := by
  constructor
  · intro hparity
    refine ⟨?_, fun hro hcan => ?_⟩
    · rintro rfl
      have hreply := (hparity fun _ => Oracle.quiet).1
      simp only [VolumeMethod.serve, Except.ok.injEq, Answer.json.injEq] at hreply
      exact h.proc (getDeviceInfo_device hreply)
    · cases m with
      | getDeviceInfo => exact hcan
      | op m =>
          -- the descriptor's run changes the header, the path's cannot
          obtain ⟨os, hchanges⟩ := @VolumeOp.canWrite_changes who _ _ m hcan
          have hluks := (hparity os).2.1
          simp only [VolumeMethod.serve] at hluks
          rw [VolumeOp.mounted_keeps hcan hro os, ← m.run_fdPath h os] at hluks
          exact hchanges hluks.symm
  · rintro ⟨hm, hmount⟩ os
    cases m with
    | getDeviceInfo => exact absurd rfl hm
    | op m =>
        have hpath : (m.body path).run (mountedExec who readOnly) os w
            = (m.body path).run (exec who) os w := by
          by_cases hcan : m.CanWrite w path
          · have hrw : readOnly path = false := by
              by_contra hro
              exact hmount (Bool.eq_true_of_not_eq_false hro) hcan
            exact VolumeOp.run_of_writable hcan hrw os
          · exact m.run_of_not_canWrite hcan os
        simp only [VolumeMethod.serve, hpath, m.run_fdPath h os]
        exact ⟨trivial, trivial, trivial⟩

/-- A service just started, and a file that its name and descriptor 7 lead to. -/
def sharedImage : World := World.start (aroundFile 7 0 true) fun _ => none

/-- A host that knows nothing of the disk. -/
def blankProbe : Probe where
  length := fun _ => 0
  tag := fun _ _ => none
  formatSize := fun _ => "0 B"

/-- `ProtectHome=read-only` in the unit of the service. -/
def homeReadOnly : String → Bool := fun path => "/home/".toList.isPrefixOf path.toList

/-- The shared image has a descriptor with number 7. -/
lemma sharedImage_named : NamedFile sharedImage.fs (homeName 0) 7 0 := by
  refine ⟨?_, ?_, ?_, rfl, homeName_ne_fdPath 0 7⟩
  · simp [sharedImage, World.start, aroundFile]
  · simp [sharedImage, World.start, aroundFile]
  · simp [sharedImage, World.start, aroundFile]

/-- A file without a LUKS header: the wipe fails on either way, read-only or not. -/
theorem shared_image_wiped_alike :
    NamedFile sharedImage.fs (homeName 0) 7 0 ∧
      Parity blankProbe none homeReadOnly sharedImage (homeName 0) 7
        (VolumeMethod.op (VolumeOp.wipeSlot "" "passphrase" "" ⟨0, by decide⟩)) := by
  refine ⟨sharedImage_named,
    (parity_iff blankProbe none homeReadOnly sharedImage sharedImage_named _).mpr ⟨?_, ?_⟩⟩
  · simp
  · rintro - ⟨h, vk, hh, -⟩
    simp [World.header, sharedImage, World.start] at hh

/-- **`GetDeviceInfo` names the descriptor's path** in its answer, where its twin names the file. -/
theorem device_info_differs :
    NamedFile sharedImage.fs (homeName 0) 7 0 ∧
      ¬ Parity blankProbe none (fun _ => false) sharedImage (homeName 0) 7
        VolumeMethod.getDeviceInfo := by
  refine ⟨sharedImage_named, fun hparity => ?_⟩
  have hreply := (hparity fun _ => Oracle.quiet).1
  simp only [VolumeMethod.serve, Except.ok.injEq, Answer.json.injEq] at hreply
  exact homeName_ne_fdPath 0 7 (getDeviceInfo_device hreply)

end LuksEnroll
