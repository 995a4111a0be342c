import LuksEnroll.Client
import LuksEnroll.Service

/-!
# Methods on an existing volume

Fourteen methods of the service take a volume that is already there, by its path or, under a second
name, by a descriptor.  Past the gate both run the same function, on the resolved path or on
`/proc/self/fd/N`.

The readers that no other module needs are here: tokens of a type, keyslots without a token, enrolled
authenticators, and `get_device_info`.

`VolumeOp.body` is the table that the other modules go by: for each method the function that it runs,
wrapped as the interface wraps it.  The theorem about both spellings of a device and the theorems about
schedules of calls quantify over this type.
-/

namespace LuksEnroll

open Library
open Prog (AllCalls)

/-! ## Readers

The methods that read the metadata for the client.
-/

/-- The order in which `tokens_by_type` sorts. -/
def tokenLe (a b : ℤ × List ℤ) : Bool := decide (a.1 < b.1 ∨ a.1 = b.1 ∧ a.2 ≤ b.2)

/-- The answer of `tokens_by_type`: tokens of a type with their keyslots, sorted. -/
def tokensByTypeIn (tokenType : String) : Option Json → List (ℤ × List ℤ)
  | none => []
  | some metadata =>
      (((tableOf "tokens" metadata).filter fun t => hasType tokenType t.2).filterMap fun t =>
        (parseI32 t.1).map fun tid => (tid, tokenKeyslots t.2)).mergeSort tokenLe

/-- `tokens_json`: `[[token_id, [keyslots]], …]`. -/
def tokensJson (device tokenType : String) : Op Json := do
  let tokens := tokensByTypeIn tokenType (← metadataJson device)
  return Json.arr (tokens.map fun t => Json.arr [Json.num t.1, Json.arr (t.2.map Json.num)])

/-- The answer of `password_keyslots`: the keyslots that no token lists, sorted. -/
def passwordKeyslotsIn : Option Json → List ℤ
  | none => []
  | some metadata =>
      let managed := (tableOf "tokens" metadata).flatMap fun t => tokenKeyslots t.2
      (((tableOf "keyslots" metadata).filterMap fun s => parseI32 s.1).filter fun n =>
        decide (n ∉ managed)).mergeSort fun a b => decide (a ≤ b)

lemma passwordKeyslotsIn_sorted (metadata : Option Json) :
    (passwordKeyslotsIn metadata).Pairwise (· ≤ ·) := by
  cases metadata with
  | none => exact List.Pairwise.nil
  | some metadata =>
      have htrans : ∀ a b c : ℤ, decide (a ≤ b) = true → decide (b ≤ c) = true →
          decide (a ≤ c) = true := by
        intro a b c hab hbc
        simp only [decide_eq_true_eq] at *
        omega
      have htotal : ∀ a b : ℤ, (decide (a ≤ b) || decide (b ≤ a)) = true := by
        intro a b
        simp only [Bool.or_eq_true, decide_eq_true_eq]
        omega
      exact (List.pairwise_mergeSort htrans htotal _).imp fun hab => of_decide_eq_true hab

/-- `password_keyslots`. -/
def passwordKeyslots (device : String) : Op (List ℤ) := do
  return passwordKeyslotsIn (← metadataJson device)

/-- `op_check_fido2_enrolled`: without credentials or without devices nobody is asked. -/
def opCheckFido2Enrolled (device : String) (fido2DevPaths : List String) : Op (List String) := do
  let creds ← existingCreds device
  if creds = [] ∨ fido2DevPaths = [] then return []
  else ask (Cmd.fido2EnrolledPaths fido2DevPaths creds)

lemma opCheckFido2Enrolled_looks (device : String) (fido2DevPaths : List String) :
    (opCheckFido2Enrolled device fido2DevPaths).AllCalls (Cmd.LooksOn device) := by
  refine AllCalls.bind (existingCreds_looks device) fun creds => ?_
  split_ifs
  · trivial
  · exact allCalls_ask.mpr trivial

/-! ## Device information

What `GetDeviceInfo` puts together: libblkid's answers, the size, and the mount point.
-/

/-- What `get_device_info` learns about an object from the kernel and from libblkid, and how it
prints a size. -/
structure Probe where
  length : ℕ → ℕ
  /-- `None` when nothing was detected, or when the tag is empty. -/
  tag : ℕ → String → Option String
  formatSize : ℕ → String

/-- `str::parse::<u64>`. -/
def parseU64 (s : String) : Option ℕ :=
  (match s.toList with
    | '+' :: cs => parseDigits cs
    | cs => parseDigits cs).filter fun n => decide (n < 18446744073709551616)

/-- `blkid_tag`: a path that reaches nothing cannot be probed. -/
def Probe.blkidTag (probe : Probe) (fs : FileSystem) (device tag : String) : Option String :=
  (fs.node device).bind fun i => probe.tag i tag

/-- The size: the length of a regular file, else what sysfs has under the names of the device. -/
def Probe.size (probe : Probe) (fs : FileSystem) (device : String) : String :=
  match fs.node device with
  | some i => if fs.kind i = FileKind.regular then probe.formatSize (probe.length i) else sysfsSize
  | none => sysfsSize
where
  sysfsSize : String :=
    let parent := parentDeviceName device
    let base := basename device
    let sectors := (fs.readSysfs ("/sys/block/" ++ parent ++ "/" ++ base ++ "/size")).or
      (fs.readSysfs ("/sys/block/" ++ base ++ "/size"))
    match sectors.bind parseU64 with
    | some n => probe.formatSize (n * 512 % 18446744073709551616)
    | none => ""

/-- `str::split_whitespace`. -/
def splitWhitespace (line : List Char) : List String :=
  ((line.splitOnP isWhiteSpace).filter fun f => decide (f ≠ [])).map String.ofList

/-- The mount point of the first line that has this device in its first field. -/
def mountPoint (mounts device : String) : String :=
  ((splitChar '\n' mounts.toList).findSome? fun line =>
    match splitWhitespace line with
    | dev :: mp :: _ => if dev = device then some mp else none
    | _ => none).getD ""

/-- `get_device_info`, which reads and never writes. -/
def getDeviceInfo (probe : Probe) (fs : FileSystem) (device : String) : Json :=
  Json.obj [
    ("device", Json.str device),
    ("size", Json.str (probe.size fs device)),
    ("label", Json.str ((probe.blkidTag fs device "LABEL").getD "")),
    ("removable", Json.bool (decide (fs.readSysfs (removablePath device) = some "1"))),
    ("mount_point", Json.str (mountPoint ((fs.text "/proc/mounts").getD "") device)),
    ("filesystem", Json.str ((probe.blkidTag fs device "TYPE").getD "")),
    ("uuid", Json.str ((probe.blkidTag fs device "UUID").getD ""))]

/-! ## The methods

One type for the fourteen methods on a volume, with their bodies and their answers.
-/

/-- The methods that issue commands. -/
inductive VolumeOp : Type
  | getKeyslots
  | getTokensByType (tokenType : String)
  | findPasswordKeyslots
  | isVolumeKeyCached
  | checkFido2Enrolled (fido2DevPaths : List String)
  | verifyPassphrase (passphrase : String)
  | unlockWithToken (tokenType pin : String)
  | openVolume (name passphrase unlockMethod unlockPin : String)
  | enrollFido2 (passphrase pin fido2Device unlockMethod unlockPin : String)
  | enrollTpm2 (passphrase pin pcrs unlockMethod unlockPin : String)
  | enrollRecoveryKey (passphrase unlockMethod unlockPin : String)
  | enrollPassphrase (existingPassphrase newPassphrase unlockMethod unlockPin : String)
  | wipeSlot (passphrase unlockMethod pin : String) (slot : I32)

/-- All fourteen: `GetDeviceInfo` only reads, and is a function of the state. -/
inductive VolumeMethod : Type
  | getDeviceInfo
  | op (m : VolumeOp)

/-- What comes back over the bus; `failed` is a D-Bus error. -/
inductive Answer : Type
  | json (j : Json)
  | keyslots (slots : List ℤ)
  | flag (b : Bool)
  | paths (ps : List String)
  | found (ok : Bool) (keyslot : ℤ)
  | triple (t : Triple)
  | failed (message : String)

/-- `(true, slot)`, or `(false, -1)` for any failure. -/
def foundSlot (body : Op ℕ) : Op Answer := do
  match ← body.attempt with
  | Except.ok slot => return Answer.found true slot
  | Except.error _ => return Answer.found false (-1)

lemma foundSlot_allCalls {P : Cmd → Prop} {p : Op ℕ} (hp : p.AllCalls P) :
    (foundSlot p).AllCalls P := by
  refine AllCalls.bind hp.attempt fun x => ?_
  cases x <;> trivial

namespace VolumeOp

/-- What a method does on a device, past the gate. -/
def body (device : String) : VolumeOp → Op Answer
  | getKeyslots => do return Answer.json (← keyslotsJson device)
  | getTokensByType tokenType => do return Answer.json (← tokensJson device tokenType)
  | findPasswordKeyslots => do return Answer.keyslots (← passwordKeyslots device)
  | isVolumeKeyCached => do return Answer.flag (← LuksEnroll.isVolumeKeyCached device)
  | checkFido2Enrolled fido2DevPaths => do
      return Answer.paths (← opCheckFido2Enrolled device fido2DevPaths)
  | verifyPassphrase passphrase => foundSlot (LuksEnroll.verifyPassphrase device passphrase)
  | unlockWithToken tokenType pin =>
      if tokenType ≠ tokenTypeFido2 ∧ tokenType ≠ tokenTypeTpm2 then
        return Answer.failed "Operation failed"
      else foundSlot (verifyToken device tokenType pin)
  | openVolume name passphrase unlockMethod unlockPin => do
      return Answer.triple (← opOpenVolume device name passphrase unlockMethod unlockPin)
  | enrollFido2 passphrase pin fido2Device unlockMethod unlockPin => do
      return Answer.triple
        (← opEnrollFido2 device passphrase pin fido2Device unlockMethod unlockPin)
  | enrollTpm2 passphrase pin pcrs unlockMethod unlockPin => do
      return Answer.triple (← opEnrollTpm2 device passphrase pin pcrs unlockMethod unlockPin)
  | enrollRecoveryKey passphrase unlockMethod unlockPin => do
      return Answer.triple (← opEnrollRecoveryKey device passphrase unlockMethod unlockPin)
  | enrollPassphrase existingPassphrase newPassphrase unlockMethod unlockPin => do
      return Answer.triple
        (← opEnrollPassphrase device existingPassphrase newPassphrase unlockMethod unlockPin)
  | wipeSlot passphrase unlockMethod pin slot => do
      return Answer.triple (← opWipeSlot device passphrase unlockMethod pin slot)

/-! ## What the methods issue

Five of them are requests about a keyslot, whose commands are listed in `Concurrency`.  The others
read, and one of them ends in an activation.
-/

/-- The request about a keyslot that a method is, if it is one. -/
def slotRequest (device : String) : VolumeOp → Option SlotRequest
  | enrollFido2 passphrase pin fido2Device unlockMethod unlockPin =>
      some (SlotRequest.enrollFido2 device passphrase pin fido2Device unlockMethod unlockPin)
  | enrollTpm2 passphrase pin pcrs unlockMethod unlockPin =>
      some (SlotRequest.enrollTpm2 device passphrase pin pcrs unlockMethod unlockPin)
  | enrollRecoveryKey passphrase unlockMethod unlockPin =>
      some (SlotRequest.enrollRecoveryKey device passphrase unlockMethod unlockPin)
  | enrollPassphrase existingPassphrase newPassphrase unlockMethod unlockPin =>
      some (SlotRequest.enrollPassphrase device existingPassphrase newPassphrase unlockMethod
        unlockPin)
  | wipeSlot passphrase unlockMethod pin slot =>
      some (SlotRequest.wipeSlot device passphrase unlockMethod pin slot)
  | _ => none

lemma body_of_slotRequest {device : String} {m : VolumeOp} {r : SlotRequest}
    (hr : m.slotRequest device = some r) :
    m.body device = r.body.bind fun t => Prog.ret (Answer.triple t) := by
  cases m <;> cases hr <;> rfl

lemma slotRequest_device {device : String} {m : VolumeOp} {r : SlotRequest}
    (hr : m.slotRequest device = some r) : r.device = device := by
  cases m <;> cases hr <;> rfl

/-- Every other method reads, and at most activates. -/
lemma body_opens {device : String} {m : VolumeOp} (hnone : m.slotRequest device = none) :
    (m.body device).AllCalls fun c => ∃ name, c.OpensOn device name := by
  have hreads : ∀ {p : Op Answer}, p.AllCalls (Cmd.ReadsOn device) →
      p.AllCalls fun c => ∃ name, c.OpensOn device name :=
    fun hp => hp.mono fun c hc => ⟨"", Or.inl hc⟩
  have hlooks : ∀ {α : Type} {p : Op α} {answer : α → Answer}, p.AllCalls (Cmd.LooksOn device) →
      (p.bind fun a => Prog.ret (answer a)).AllCalls fun c => ∃ name, c.OpensOn device name :=
    fun hp => hreads (AllCalls.bind (reads_of_looks hp) fun _ => trivial)
  cases m with
  | getKeyslots => exact hlooks (AllCalls.bind (listKeyslots_looks device) fun _ => trivial)
  | getTokensByType tokenType =>
      exact hlooks (AllCalls.bind (metadataJson_looks device) fun _ => trivial)
  | findPasswordKeyslots =>
      exact hlooks (AllCalls.bind (metadataJson_looks device) fun _ => trivial)
  | isVolumeKeyCached =>
      exact hreads (AllCalls.bind (AllCalls.bind (allCalls_ask.mpr rfl) fun _ => trivial)
        fun _ => trivial)
  | checkFido2Enrolled fido2DevPaths => exact hlooks (opCheckFido2Enrolled_looks device fido2DevPaths)
  | verifyPassphrase passphrase =>
      exact hreads (foundSlot_allCalls (verifyPassphrase_reads device passphrase))
  | unlockWithToken tokenType pin =>
      refine hreads ?_
      simp only [body]
      split_ifs
      · trivial
      · exact foundSlot_allCalls (verifyToken_reads device tokenType pin)
  | openVolume name passphrase unlockMethod unlockPin =>
      refine AllCalls.bind ?_ fun _ => trivial
      exact (opOpenVolume_opens device name passphrase unlockMethod unlockPin).mono
        fun c hc => ⟨name, hc⟩
  | _ => cases hnone

end VolumeOp

/-- A method on a device, past the gate: the answer, and the state it leaves.  `hd` says how the
commands are answered where the service runs. -/
def VolumeMethod.serve (probe : Probe) (hd : Handler Cmd Reply Oracle World) (device : String)
    (m : VolumeMethod) (os : ℕ → Oracle) (w : World) : Except String Answer × World :=
  match m with
  | getDeviceInfo => (Except.ok (Answer.json (LuksEnroll.getDeviceInfo probe w.fs device)), w)
  | op m => (m.body device).run hd os w

end LuksEnroll
