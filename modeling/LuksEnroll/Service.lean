import LuksEnroll.Concurrency
import LuksEnroll.Unlocking

/-!
# The service, one request after another

`Request` collects the requests whose bodies change anything, in the form they have once the gate
has let them through: devices are resolved paths, or `/proc/self/fd/N` for the `*Fd` methods.  A
run of the service is a list of requests, each with the inputs of its environment; time passes
within them, since every call takes some.

The commands a request can issue are listed here once; the modules on the cache and on mappings
build on these lists.

The lists are predicates on commands, one for each thing that a run has to know of a request: that it
reads, that it closes, that it formats these paths.  A lemma for each function of the source says that
its commands are of that kind; what a kind of command does to the state is said once, in other modules.
-/

namespace LuksEnroll

open Library
open Prog (AllCalls)

/-! ## Requests

The requests of the service, one after another.
-/

/-- A request that changes something, past the gate. -/
inductive Request : Type
  | slot (r : SlotRequest)
  | verifyPassphrase (device passphrase : String)
  | unlockWithToken (device tokenType pin : String)
  | openVolume (device name passphrase unlockMethod unlockPin : String)
  | closeVolume (name : String)
  /-- `found` are the mappings that the loop devices of the descriptor's file carry. -/
  | closeVolumeFd (found : List String)
  | createEncryptedImage (realPath : String) (sizeMb : ℤ) (passphrase : String)
      (owner : Option (ℕ × ℕ))
  | createImageFd (path passphrase : String)
  | formatPartition (device passphrase : String)

/-- The loop of `deactivate_volumes_backed_by`. -/
def deactivateVolumes : List String → Op Unit
  | [] => return ()
  | name :: rest => do
      (deactivateVolume name).mapErr fun e => name ++ ": " ++ e
      deactivateVolumes rest

/-- What a request does, its answer left aside. -/
def Request.body : Request → Op Unit
  | Request.slot r => do
      let _ ← r.body
      return ()
  | Request.verifyPassphrase device passphrase => do
      let _ ← LuksEnroll.verifyPassphrase device passphrase
      return ()
  | Request.unlockWithToken device tokenType pin => do
      let _ ← verifyToken device tokenType pin
      return ()
  | Request.openVolume device name passphrase unlockMethod unlockPin => do
      let _ ← opOpenVolume device name passphrase unlockMethod unlockPin
      return ()
  | Request.closeVolume name => do
      let _ ← opCloseVolume name
      return ()
  | Request.closeVolumeFd found => deactivateVolumes found
  | Request.createEncryptedImage realPath sizeMb passphrase owner => do
      let _ ← opCreateEncryptedImage realPath sizeMb passphrase owner
      return ()
  | Request.createImageFd path passphrase => do
      let _ ← opCreateImageFd path passphrase
      return ()
  | Request.formatPartition device passphrase => do
      let _ ← opFormatPartition device passphrase
      return ()

/-- A request and the inputs of its environment. -/
abbrev Served := Request × (ℕ → Oracle)

/-- The world after a run of the service. -/
def serve (xs : List Served) (w : World) : World := Prog.runAll (exec none) Request.body xs w

/-- Every request of the run meets a condition on the state it starts from. -/
def Serving (Adm : World → Request → (ℕ → Oracle) → Prop) (xs : List Served) (w : World) : Prop :=
  Prog.AllAlong (exec none) Request.body Adm xs w

/-! ## Unlocking

What a request issues, by its body: reading, and looking.
-/

/-- Verifying a passphrase writes to no header. -/
lemma verifyPassphrase_reads (device passphrase : String) :
    (verifyPassphrase device passphrase).AllCalls (Cmd.ReadsOn device) :=
  AllCalls.bind (reads_of_looks (openLuks2_looks device)) fun _ =>
    AllCalls.bind (allCalls_ask.mpr trivial) fun _ => AllCalls.bind (allCalls_orFail _ _) fun _ =>
      AllCalls.bind (allCalls_ask.mpr rfl) fun _ => trivial

/-- Verifying with a token writes to no header. -/
lemma verifyToken_reads (device tokenType pin : String) :
    (verifyToken device tokenType pin).AllCalls (Cmd.ReadsOn device) := by
  rw [verifyToken]
  split_ifs
  · trivial
  · exact AllCalls.bind (reads_of_looks (derivePassphraseFromToken_looks _ _ _)) fun _ =>
      AllCalls.bind ((reads_of_looks (extractTokenVolumeKey_looks _ _ _)).mapErr _) fun _ =>
        AllCalls.bind (allCalls_ask.mpr rfl) fun _ => trivial

/-! ## Closing

Commands that take a mapping down, and read.
-/

/-- Looking at mappings and taking them down. -/
def Cmd.Closes : Cmd → Prop
  | Cmd.status _ => True
  | Cmd.canonicalize _ => True
  | Cmd.readToString _ => True
  | Cmd.initByName _ => True
  | Cmd.deactivate _ => True
  | _ => False

/-- Closing a mapping issues nothing but status queries and the deactivation. -/
lemma deactivateVolume_closes (name : String) : (deactivateVolume name).AllCalls Cmd.Closes := by
  rw [deactivateVolume]
  split_ifs
  · refine AllCalls.bind (allCalls_ask.mpr trivial) fun active => ?_
    cases active with
    | false => trivial
    | true =>
        have hmounted : (mappingIsMounted name).AllCalls Cmd.Closes := by
          refine AllCalls.bind (allCalls_ask.mpr trivial) fun dmNode => ?_
          refine AllCalls.bind (allCalls_ask.mpr trivial) fun mounts => ?_
          cases mounts <;> trivial
        refine AllCalls.bind hmounted fun mounted => ?_
        cases mounted with
        | true => trivial
        | false =>
            exact AllCalls.bind (allCalls_ask.mpr trivial) fun _ =>
              AllCalls.bind (allCalls_orFail _ _) fun _ =>
                AllCalls.bind (allCalls_ask.mpr trivial) fun _ => allCalls_orFail _ _
  · trivial

lemma deactivateVolumes_closes (found : List String) :
    (deactivateVolumes found).AllCalls Cmd.Closes := by
  induction found with
  | nil => trivial
  | cons name rest ih => exact AllCalls.bind ((deactivateVolume_closes name).mapErr _) fun _ => ih

/-! ## Formatting

The commands of a format, and the path that they are for.
-/

/-- The commands of formatting what is at `path`; keys go to the cache only if `caches`. -/
def Cmd.FormatsAt (path : String) (caches : Prop) : Cmd → Prop
  | Cmd.init d => d = path
  | Cmd.format d _ => d = path
  | Cmd.addByKey d _ _ => d = path
  | Cmd.cacheInsert d _ => d = path ∧ caches
  | Cmd.setMetadataSize => True
  | Cmd.osRandom _ => True
  | _ => False

section FormatsAt

variable {path : String} {caches : Prop}

/-- The keyslots area is a setting of the session, on this path. -/
lemma applyKeyslotsArea_formats (area : KeyslotsArea) :
    (applyKeyslotsArea area).AllCalls (Cmd.FormatsAt path caches) := by
  rw [applyKeyslotsArea]
  split_ifs
  · exact AllCalls.bind (allCalls_ask.mpr trivial) fun _ => allCalls_orFail _ _
  · trivial

/-- A format with a passphrase writes to its path and caches nothing. -/
lemma formatLuks2_formats (passphrase : String) (area : KeyslotsArea) :
    (formatLuks2 path passphrase area).AllCalls (Cmd.FormatsAt path caches) :=
  AllCalls.bind (allCalls_ask.mpr rfl) fun _ => AllCalls.bind (allCalls_orFail _ _) fun _ =>
    AllCalls.bind (applyKeyslotsArea_formats area) fun _ =>
      AllCalls.bind (allCalls_ask.mpr rfl) fun _ => AllCalls.bind (allCalls_orFail _ _) fun _ =>
        AllCalls.bind (allCalls_ask.mpr rfl) fun _ => allCalls_orFail _ _

/-- A keyless format writes to its path and caches its key. -/
lemma formatLuks2Keyless_formats (hcaches : caches) (area : KeyslotsArea) :
    (formatLuks2Keyless path area).AllCalls (Cmd.FormatsAt path caches) :=
  AllCalls.bind (allCalls_ask.mpr trivial) fun _ =>
    AllCalls.bind (allCalls_ask.mpr rfl) fun _ => AllCalls.bind (allCalls_orFail _ _) fun _ =>
      AllCalls.bind (applyKeyslotsArea_formats area) fun _ =>
        AllCalls.bind (allCalls_ask.mpr rfl) fun _ => AllCalls.bind (allCalls_orFail _ _) fun _ =>
          allCalls_ask.mpr ⟨rfl, hcaches⟩

/-- A format caches a key only without a passphrase. -/
lemma formatContainer_formats {passphrase : String} (hcaches : passphrase = "" → caches) :
    (formatContainer path passphrase).AllCalls (Cmd.FormatsAt path caches) := by
  rw [formatContainer]
  split_ifs with hempty
  · exact AllCalls.bind (formatLuks2Keyless_formats (hcaches hempty) _) fun _ => trivial
  · exact AllCalls.bind (formatLuks2_formats _ _) fun _ => trivial

lemma formatLuks2Removable_formats {passphrase : String} (hcaches : passphrase = "" → caches) :
    (formatLuks2Removable path passphrase).AllCalls (Cmd.FormatsAt path caches) := by
  rw [formatLuks2Removable]
  split_ifs with hempty
  · exact formatLuks2Keyless_formats (hcaches hempty) _
  · exact AllCalls.bind (formatLuks2_formats _ _) fun _ => trivial

end FormatsAt

/-- The commands of creating, partitioning and formatting, those that name a device or file on one
of the `targets`. -/
def Cmd.FormatsOn (targets : List String) (caches : Prop) : Cmd → Prop
  | Cmd.init d => d ∈ targets
  | Cmd.wipefs d => d ∈ targets
  | Cmd.gptZapAndPartition d => d ∈ targets
  | Cmd.partprobe d => d ∈ targets
  | Cmd.format d _ => d ∈ targets
  | Cmd.addByKey d _ _ => d ∈ targets
  | Cmd.createFile d => d ∈ targets
  | Cmd.seek d _ => d ∈ targets
  | Cmd.writeAll d _ _ => d ∈ targets
  | Cmd.chown d _ _ => d ∈ targets
  | Cmd.cacheInsert d _ => d ∈ targets ∧ caches
  | Cmd.setMetadataSize => True
  | Cmd.osRandom _ => True
  | Cmd.pathExists _ => True
  | Cmd.isFile _ => True
  | Cmd.readToString _ => True
  | Cmd.uevent => True
  | Cmd.sleep => True
  | _ => False

section FormatsOn

variable {targets : List String} {path : String} {caches : Prop}

/-- Writing to one of several paths is writing to them. -/
lemma formatsOn_of_at {α : Type} {p : Op α} (hpath : path ∈ targets)
    (hp : p.AllCalls (Cmd.FormatsAt path caches)) : p.AllCalls (Cmd.FormatsOn targets caches) := by
  refine hp.mono fun c hc => ?_
  cases c with
  | init d => exact hc ▸ hpath
  | format d vk => exact hc ▸ hpath
  | addByKey d vk pw => exact hc ▸ hpath
  | cacheInsert d vk => exact ⟨hc.1 ▸ hpath, hc.2⟩
  | _ => trivial

/-- The commands of waiting for a partition of `device` to appear. -/
def Cmd.WaitsFor (device : String) : Cmd → Prop
  | Cmd.partprobe d => d = device
  | Cmd.pathExists _ => True
  | Cmd.uevent => True
  | Cmd.sleep => True
  | _ => False

/-- Polling for a node only looks, and rereads the table of the disk. -/
lemma pollForNode_waits (device partition : String) (n : ℕ) :
    (pollForNode device partition n).AllCalls (Cmd.WaitsFor device) := by
  induction n with
  | zero => exact allCalls_ask.mpr trivial
  | succ n ih =>
      refine AllCalls.bind (allCalls_ask.mpr trivial) fun found => ?_
      cases found with
      | true => trivial
      | false =>
          exact AllCalls.bind (allCalls_ask.mpr rfl) fun _ =>
            AllCalls.bind (allCalls_ask.mpr trivial) fun _ => ih

/-- Waiting for a node does no more, with udev or by polling. -/
lemma waitForPartitionNode_waits (device partition : String) :
    (waitForPartitionNode device partition).AllCalls (Cmd.WaitsFor device) := by
  refine AllCalls.bind (AllCalls.bind (allCalls_ask.mpr trivial) fun monitor => ?_) fun waited => ?_
  · cases monitor with
    | true =>
        exact AllCalls.bind (allCalls_ask.mpr rfl) fun _ =>
          AllCalls.bind (allCalls_ask.mpr trivial) fun _ => trivial
    | false => trivial
  · cases waited with
    | true => exact allCalls_ask.mpr trivial
    | false => exact pollForNode_waits device partition 20

lemma waitForPartitionNode_formats {device partition : String} (hdevice : device ∈ targets) :
    (waitForPartitionNode device partition).AllCalls (Cmd.FormatsOn targets caches) := by
  refine (waitForPartitionNode_waits device partition).mono fun c hc => ?_
  cases c with
  | partprobe d => exact hc ▸ hdevice
  | pathExists p => trivial
  | uevent => trivial
  | sleep => trivial
  | _ => exact hc.elim

/-- The answer of the wait is whether the node is there. -/
lemma waitForPartitionNode_answer {who : Option ℕ} {A : Oracle → Prop} {device : String}
    (partition : String) (v : World) :
    (waitForPartitionNode device partition).wp (exec who) A
      (fun x v' => ∃ b, x = Except.ok b ∧ b = v'.fs.pathExists partition) v := by
  have hlook : ∀ (v : World), (ask (Cmd.pathExists partition)).wp (exec who) A
      (fun x v' => ∃ b, x = Except.ok b ∧ b = v'.fs.pathExists partition) v :=
    fun v o _ => ⟨_, rfl, rfl⟩
  have hpoll : ∀ (n : ℕ) (v : World), (pollForNode device partition n).wp (exec who) A
      (fun x v' => ∃ b, x = Except.ok b ∧ b = v'.fs.pathExists partition) v := by
    intro n
    induction n with
    | zero => exact hlook
    | succ n ih =>
        intro v o _
        show Prog.wp _ _ _ (if (exec who (Cmd.pathExists partition) o v).1 = true then _
          else _ : Op Bool) _
        split_ifs with hfound
        · exact ⟨true, rfl, hfound.symm⟩
        · exact fun o₁ _ o₂ _ => ih _
  intro o _
  show Prog.wp _ _ _ (Prog.bind (if (exec who Cmd.uevent o v).1 = true then _ else _ : Op Bool) _) _
  split_ifs
  · exact fun o₁ _ o₂ _ => hlook _
  · exact hpoll 20 _

lemma createImageFile_allCalls {P : Cmd → Prop} {sizeMb : ℤ} (hcreate : P (Cmd.createFile path))
    (hseek : ∀ offset, P (Cmd.seek path offset))
    (hwrite : ∀ offset bytes, P (Cmd.writeAll path offset bytes)) :
    (createImageFile path sizeMb).AllCalls P := by
  rw [createImageFile]
  split_ifs
  · exact AllCalls.bind (allCalls_ask.mpr hcreate) fun _ =>
      AllCalls.bind (allCalls_orFail _ _) fun _ =>
      AllCalls.bind (allCalls_ask.mpr (hseek _)) fun _ =>
      AllCalls.bind (allCalls_orFail _ _) fun _ =>
      AllCalls.bind (allCalls_ask.mpr (hwrite _ _)) fun _ => allCalls_orFail _ _
  · trivial

/-- What `format_removable_partition` formats: the partition it is given, or the first partition of
the disk. -/
def formatTarget (device : String) (partition : Bool) : String :=
  if partition then device else firstPartitionPath device

/-- A format of a device writes to the device and to the partition it formats. -/
lemma formatDevice_formats (device : String) {passphrase : String} (partition : Bool)
    (hcaches : passphrase = "" → caches) :
    (formatDevice device passphrase partition).AllCalls
      (Cmd.FormatsOn [device, formatTarget device partition] caches) := by
  have hdevice : device ∈ [device, formatTarget device partition] := by simp
  have htarget : formatTarget device partition ∈ [device, formatTarget device partition] := by simp
  refine AllCalls.bind (allCalls_ask.mpr hdevice) fun _ =>
    AllCalls.bind (allCalls_orFail _ _) fun _ => ?_
  cases partition with
  | true =>
      exact AllCalls.bind
        ((formatsOn_of_at hdevice (formatLuks2Removable_formats hcaches)).mapErr _) fun _ => trivial
  | false =>
      refine AllCalls.bind (allCalls_ask.mpr hdevice) fun _ =>
        AllCalls.bind (allCalls_orFail _ _) fun _ =>
          AllCalls.bind (waitForPartitionNode_formats hdevice) fun found => ?_
      cases found with
      | true =>
          exact AllCalls.bind
            ((formatsOn_of_at htarget (formatLuks2Removable_formats hcaches)).mapErr _) fun _ =>
            trivial
      | false => trivial

lemma createContainer_formats (sizeMb : ℤ) {passphrase : String} (owner : Option (ℕ × ℕ))
    (hcaches : passphrase = "" → caches) :
    (createContainer path sizeMb passphrase owner).AllCalls (Cmd.FormatsOn [path] caches) := by
  have hpath : path ∈ [path] := List.mem_singleton_self path
  refine AllCalls.bind ?_ fun _ => AllCalls.bind
    (formatsOn_of_at hpath (formatContainer_formats hcaches)) fun _ =>
    AllCalls.bind ?_ fun _ => trivial
  · exact createImageFile_allCalls hpath (fun _ => hpath) fun _ _ => hpath
  · cases owner with
    | none => trivial
    | some ids => exact AllCalls.bind (allCalls_ask.mpr hpath) fun _ => allCalls_orFail _ _

/-- Turning a failure into an answer asks for nothing. -/
lemma runCreate_allCalls {P : Cmd → Prop} {body : Op ℤ} (hb : body.AllCalls P) :
    (runCreate body).AllCalls P := by
  refine AllCalls.bind hb.attempt fun x => ?_
  cases x <;> trivial

lemma opCreateEncryptedImage_formats (sizeMb : ℤ) {passphrase : String} (owner : Option (ℕ × ℕ))
    (hcaches : passphrase = "" → caches) :
    (opCreateEncryptedImage path sizeMb passphrase owner).AllCalls
      (Cmd.FormatsOn [path] caches) := by
  refine AllCalls.bind (allCalls_ask.mpr trivial) fun present => ?_
  split_ifs
  · refine AllCalls.bind (allCalls_ask.mpr trivial) fun file => ?_
    split_ifs <;> trivial
  · exact runCreate_allCalls (createContainer_formats sizeMb owner hcaches)
  · trivial

end FormatsOn

end LuksEnroll
