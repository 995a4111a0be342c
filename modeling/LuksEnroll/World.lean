import LuksEnroll.FileSystem
import LuksEnroll.Library.Pool
import LuksEnroll.Metadata

/-!
# The world the operations act on

Every call by which an operation leaves its own memory is a command: a lock of the volume-key
cache, one libcryptsetup call, a hardware exchange, a file-system access.  Commands are the grain
of interleaving; what happens between two of them is the operation's own.

`exec` answers a command from the `World`, and an `Oracle` settles what the world leaves open:

* `fault` makes a libcryptsetup or file call fail, with that text; a header is then unchanged;
* `hardwareFault` does the same to the authenticator, the TPM and the fallible random source;
* `text` words a refusal that the state forces;
* `pick` chooses among several admissible indices;
* `elapsed` is the time the call took, in nanoseconds;
* the rest are the answers of the random source and of the hardware, and the damage a raw write
  does to other content it reaches.

A session's reads go to the header as it was loaded; its writes go to the header as it is, or are
refused by a `fault` if libcryptsetup finds that it changed.
-/

namespace LuksEnroll

open Library

/-! ## Commands

What the service asks of its surroundings, one constructor for each call of libcryptsetup, of the
file system and of the hardware.
-/

/-- `libcryptsetup_rs::TokenInput`. -/
inductive TokenInput : Type
  | add (json : Json)
  | replace (id : ℕ) (json : Json)
  | remove (id : ℕ)

/-- `fido2::Enrollment`. -/
structure Fido2Enrollment where
  hmacSecret : Bytes
  credId : Bytes
  salt : Bytes

/-- `tpm2::SealResult`. -/
structure SealResult where
  blob : Bytes
  policyHash : Bytes
  primaryAlg : String
  srkBlob : Bytes

/-- The commands: every call by which an operation leaves its own memory. -/
inductive Cmd : Type
  -- the volume-key cache
  | cacheGet (device : String)
  | cacheInsert (device : String) (vk : VolumeKey)
  -- libcryptsetup
  | init (device : String)
  | load (device : String)
  | dumpJson (loaded : Header)
  | volumeKeyGet (loaded : Header) (slot : Option ℕ) (pw : Bytes)
  | setPbkdfType
  | addByKey (device : String) (vk : Option VolumeKey) (pw : Bytes)
  | tokenJsonSet (device : String) (input : TokenInput)
  | keyslotDestroy (device : String) (slot : ℕ)
  | setMetadataSize
  | format (device : String) (vk : Option VolumeKey)
  | activateByVolumeKey (device name : String) (vk : VolumeKey)
  | status (name : String)
  | initByName (name : String)
  | deactivate (name : String)
  -- hardware and the random source
  | getrandom (n : ℕ)
  | osRandom (n : ℕ)
  | fido2Enroll (fido2Device : String) (pin : Option String)
  | fido2EnrolledPaths (paths : List String) (creds : List Bytes)
  | fido2UnlockFromTokens (refs : List Fido2TokenRef) (pin : String)
  | tpm2Seal (secret : Bytes) (pcrs pin : String)
  | tpm2UnsealFromTokens (refs : List Tpm2TokenRef) (pin : String)
  -- the file system
  | pathExists (path : String)
  | isFile (path : String)
  | canonicalize (path : String)
  | readToString (path : String)
  | createFile (path : String)
  | seek (path : String) (offset : ℕ)
  | writeAll (path : String) (offset : ℕ) (bytes : Bytes)
  | chown (path : String) (uid gid : ℕ)
  | wipefs (device : String)
  | gptZapAndPartition (device : String)
  | partprobe (device : String)
  | uevent
  | sleep

/-- The answer to a command. -/
abbrev Reply : Cmd → Type
  | Cmd.cacheGet _ => Option VolumeKey
  | Cmd.cacheInsert _ _ => Unit
  | Cmd.init _ => Except String Unit
  | Cmd.load _ => Except String Header
  | Cmd.dumpJson _ => Except String Json
  | Cmd.volumeKeyGet _ _ _ => Except String (ℕ × VolumeKey)
  | Cmd.setPbkdfType => Except String Unit
  | Cmd.addByKey _ _ _ => Except String ℕ
  | Cmd.tokenJsonSet _ _ => Except String ℕ
  | Cmd.keyslotDestroy _ _ => Except String Unit
  | Cmd.setMetadataSize => Except String Unit
  | Cmd.format _ _ => Except String Unit
  | Cmd.activateByVolumeKey _ _ _ => Except String Unit
  | Cmd.status _ => Bool
  | Cmd.initByName _ => Except String Unit
  | Cmd.deactivate _ => Except String Unit
  | Cmd.getrandom _ => Except String Bytes
  | Cmd.osRandom _ => Bytes
  | Cmd.fido2Enroll _ _ => Except String Fido2Enrollment
  | Cmd.fido2EnrolledPaths _ _ => List String
  | Cmd.fido2UnlockFromTokens _ _ => Except String Bytes
  | Cmd.tpm2Seal _ _ _ => Except String SealResult
  | Cmd.tpm2UnsealFromTokens _ _ => Except String Bytes
  | Cmd.pathExists _ => Bool
  | Cmd.isFile _ => Bool
  | Cmd.canonicalize _ => Option String
  | Cmd.readToString _ => Option String
  | Cmd.createFile _ => Except String Unit
  | Cmd.seek _ _ => Except String Unit
  | Cmd.writeAll _ _ _ => Except String Unit
  | Cmd.chown _ _ _ => Except String Unit
  | Cmd.wipefs _ => Except String Unit
  | Cmd.gptZapAndPartition _ => Except String Unit
  | Cmd.partprobe _ => Unit
  | Cmd.uevent => Bool
  | Cmd.sleep => Unit

/-- An operation of the service: commands, and failure with `error::Error`'s text. -/
abbrev Op (α : Type) := Prog Cmd Reply String α

/-- Issue a command. -/
def ask (c : Cmd) : Op (Reply c) := Prog.perform c

/-- Fail where a call failed, with a text made from its own. -/
def orFail {α : Type} (r : Except String α) (word : String → String) : Op α :=
  Prog.ofExcept (r.mapError word)

/-! ## State

What lasts from one request to the next.
-/

/-- A dm-crypt mapping.  `keyslots` is a ghost: how many keyslots the header had when the mapping
was set up. -/
structure Mapping where
  object : ℕ
  key : VolumeKey
  keyslots : ℕ

/-- The state the operations share: the clock, the file system, the header on each object, the
volume-key cache and the active mappings.

`fileCache` is a ghost of the cache, indexed by the object whose key was cached. -/
structure World where
  now : ℕ
  fs : FileSystem
  luks : ℕ → Option Header
  cache : String → Option (VolumeKey × ℕ)
  mappings : String → Option Mapping
  fileCache : ℕ → Option (VolumeKey × ℕ)

/-- `VOLUME_KEY_CACHE_TTL`: 120 seconds, in nanoseconds. -/
def volumeKeyCacheTtl : ℕ := 120 * 1000000000

/-- A cache entry as seen at a time: nothing once it is past its time. -/
def live (now : ℕ) (entry : Option (VolumeKey × ℕ)) : Option VolumeKey :=
  match entry with
  | some (vk, t) => if now - t < volumeKeyCacheTtl then some vk else none
  | none => none

namespace World

/-- The world when the service starts: nothing cached, nothing mapped. -/
def start (fs : FileSystem) (luks : ℕ → Option Header) : World where
  now := 0
  fs := fs
  luks := luks
  cache := fun _ => none
  mappings := fun _ => none
  fileCache := fun _ => none

/-- The header stored where a path leads. -/
def header (w : World) (device : String) : Option Header := (w.fs.node device).bind w.luks

/-- The unexpired cache entry for a device. -/
def cachedKey (w : World) (device : String) : Option VolumeKey :=
  live w.now (w.cache (w.fs.cacheKey device))

/-- A raw write to object `i`: content it reaches may be lost. -/
def lose (w : World) (i : ℕ) (lost : ℕ → Bool) : World :=
  { w with luks := fun j => if w.fs.reaches i j && lost j then none else w.luks j }

end World

/-! ## Answers

What every command answers, and does to the state, on an input of the environment.
-/

/-- An input of the environment, one for every command. -/
structure Oracle where
  fault : Option String := none
  hardwareFault : Option String := none
  text : String := ""
  pick : Option ℕ := none
  elapsed : ℕ := 0
  flag : Bool := false
  bytes : ℕ → UInt8 := fun _ => 0
  secret : Bytes := []
  enrollment : Fido2Enrollment := ⟨[], [], []⟩
  sealResult : SealResult := ⟨[], [], "", []⟩
  paths : List String := []
  lost : ℕ → Bool := fun _ => false
  aliases : String → Bool := fun _ => false

namespace Oracle

/-- Nothing fails, no time passes, the lowest free index is taken. -/
def quiet : Oracle := {}

/-- The input that lets a call succeed, so that runs can be evaluated. -/
instance : Inhabited Oracle := ⟨quiet⟩

/-- A call whose answer the oracle gives, unless it fails. -/
def unlessFault {α : Type} (o : Oracle) (a : α) : Except String α :=
  match o.fault with
  | some e => Except.error e
  | none => Except.ok a

/-- The same for the hardware. -/
def unlessHardwareFault {α : Type} (o : Oracle) (a : α) : Except String α :=
  match o.hardwareFault with
  | some e => Except.error e
  | none => Except.ok a

/-- As many random bytes as are asked for. -/
def random (o : Oracle) (n : ℕ) : Bytes := (List.range n).map o.bytes

end Oracle

namespace Header

/-- Does this secret open keyslot `i`, and give the volume key? -/
def opens (h : Header) (pw : Bytes) (i : ℕ) : Bool :=
  match h.keyslots i with
  | some ks => ks.holdsVolumeKey && decide (ks.secret = pw)
  | none => false

/-- `crypt_volume_key_get`: at one keyslot, or at any that the secret opens. -/
def keyAt (h : Header) (o : Oracle) (slot : Option ℕ) (pw : Bytes) :
    Except String (ℕ × VolumeKey) :=
  match slot with
  | some i => if h.opens pw i then Except.ok (i, h.volumeKey) else Except.error o.text
  | none =>
      match (o.pick.filter fun i => h.opens pw i).or (h.slotIds.find? fun i => h.opens pw i) with
      | some i => Except.ok (i, h.volumeKey)
      | none => Except.error o.text

/-- The keyslot that `crypt_keyslot_add_by_key` writes. -/
def newKeyslot (who : Option ℕ) (pw : Bytes) : Keyslot where
  type := "luks2"
  secret := pw
  holdsVolumeKey := true
  creator := who

/-- `crypt_keyslot_add_by_key`: a key given must be the volume key. -/
def addByKey (h : Header) (who : Option ℕ) (o : Oracle) (vk : Option VolumeKey) (pw : Bytes) :
    Except String (ℕ × Header) :=
  if vk.getD h.volumeKey = h.volumeKey then
    match h.addKeyslot o.pick (newKeyslot who pw) with
    | some r => Except.ok r
    | none => Except.error o.text
  else Except.error o.text

/-- `crypt_token_json_set`. -/
def jsonSet (h : Header) (who : Option ℕ) (o : Oracle) : TokenInput → Except String (ℕ × Header)
  | TokenInput.add json =>
      match (Token.ofJson who json).bind (h.addToken o.pick) with
      | some r => Except.ok r
      | none => Except.error o.text
  | TokenInput.replace id json =>
      match (Token.ofJson who json).bind ((h.removeToken id).addToken (some id)) with
      | some r => if r.1 = id then Except.ok r else Except.error o.text
      | none => Except.error o.text
  | TokenInput.remove id =>
      if id < tokensMax then Except.ok (id, h.removeToken id) else Except.error o.text

/-- `crypt_keyslot_destroy`. -/
def keyslotDestroy (h : Header) (o : Oracle) (slot : ℕ) : Except String (Unit × Header) :=
  match h.destroyKeyslot slot with
  | some h' => Except.ok ((), h')
  | none => Except.error o.text

end Header

namespace World

/-- A write to the header at `device`: on failure nothing changes. -/
def update {α : Type} (w : World) (device : String) (o : Oracle)
    (f : Header → Except String (α × Header)) : Except String α × World :=
  match o.fault with
  | some e => (Except.error e, w)
  | none =>
      match w.fs.node device with
      | none => (Except.error o.text, w)
      | some i =>
          match w.luks i with
          | none => (Except.error o.text, w)
          | some h =>
              match f h with
              | Except.error e => (Except.error e, w)
              | Except.ok (a, h') =>
                  (Except.ok a, { w with luks := Function.update w.luks i (some h') })

/-- `crypt_load`. -/
def load (w : World) (o : Oracle) (device : String) : Except String Header :=
  match o.fault, w.header device with
  | none, some h => Except.ok h
  | some e, _ => Except.error e
  | none, none => Except.error o.text

/-- `cached_volume_key`: an expired entry is removed. -/
def cacheGet (w : World) (device : String) : Option VolumeKey × World :=
  match w.cachedKey device with
  | some vk => (some vk, w)
  | none => (none, { w with cache := Function.update w.cache (w.fs.cacheKey device) none })

/-- `cache_volume_key`. -/
def cacheInsert (w : World) (device : String) (vk : VolumeKey) : World :=
  { w with
    cache := Function.update w.cache (w.fs.cacheKey device) (some (vk, w.now))
    fileCache := match w.fs.node device with
      | some i => Function.update w.fileCache i (some (vk, w.now))
      | none => w.fileCache }

/-- `crypt_format`: a fresh header for the given key, or for one the library generates. -/
def format (w : World) (o : Oracle) (device : String) (vk : Option VolumeKey) :
    Except String Unit × World :=
  match w.fs.node device with
  | none => (Except.error o.text, w)
  | some i =>
      match o.fault with
      | some e => (Except.error e, w.lose i o.lost)
      | none =>
          (Except.ok (), { w with
            luks := Function.update (w.lose i o.lost).luks i
              (some (Header.fresh (vk.getD ⟨o.random 64⟩))) })

/-- `crypt_activate_by_volume_key`: the key must be the volume key, the name free. -/
def activate (w : World) (o : Oracle) (device name : String) (vk : VolumeKey) :
    Except String Unit × World :=
  match o.fault with
  | some e => (Except.error e, w)
  | none =>
      match w.fs.node device with
      | none => (Except.error o.text, w)
      | some i =>
          match w.luks i with
          | none => (Except.error o.text, w)
          | some h =>
              if vk = h.volumeKey ∧ (w.mappings name).isNone then
                (Except.ok (), { w with
                  mappings := Function.update w.mappings name
                    (some ⟨i, vk, h.slotIds.length⟩) })
              else (Except.error o.text, w)

/-- A raw write to a device. -/
def write (w : World) (o : Oracle) (device : String) : Except String Unit × World :=
  match w.fs.node device with
  | none => (Except.error o.text, w)
  | some i => (o.unlessFault (), w.lose i o.lost)

/-- `File::create`, one `open` call that has its effect or fails without one: a file that is new, or
one that loses its content.  A device is opened as it is, and a directory is refused. -/
def createFile (w : World) (o : Oracle) (path : String) : Except String Unit × World :=
  match o.fault with
  | some e => (Except.error e, w)
  | none =>
      match w.fs.node path with
      | none => (Except.ok (), { w with fs := w.fs.create path FileKind.regular o.aliases })
      | some i =>
          match w.fs.kind i with
          | FileKind.regular => (Except.ok (), { w with luks := Function.update w.luks i none })
          | FileKind.directory => (Except.error o.text, w)
          | _ => (Except.ok (), w)

/-- The kernel's path of the first partition of a disk. -/
def firstPartition (disk : String) : String :=
  "/dev/" ++ disk ++ (if (disk.toList.getLast?.map Char.isDigit).getD false then "p1" else "1")

/-- `partprobe`: on a whole disk the kernel may make the node of the partition appear. -/
def partprobe (w : World) (o : Oracle) (device : String) : World :=
  match w.fs.kindAt device with
  | some (FileKind.block disk true) =>
      if o.flag && !w.fs.pathExists (firstPartition disk) then
        { w with fs := w.fs.create (firstPartition disk) (FileKind.block disk false) o.aliases }
      else w
  | _ => w

end World

/-- The answer to a command and the world after it, for a request numbered `who`. -/
def answer (who : Option ℕ) : (c : Cmd) → Oracle → World → Reply c × World
  | Cmd.cacheGet device, _, w => w.cacheGet device
  | Cmd.cacheInsert device vk, _, w => ((), w.cacheInsert device vk)
  | Cmd.init device, o, w =>
      (if w.fs.pathExists device then o.unlessFault () else Except.error o.text, w)
  | Cmd.load device, o, w => (w.load o device, w)
  | Cmd.dumpJson loaded, o, w => (o.unlessFault loaded.dump, w)
  | Cmd.volumeKeyGet loaded slot pw, o, w =>
      ((o.unlessFault ()).bind fun _ => loaded.keyAt o slot pw, w)
  | Cmd.setPbkdfType, o, w => (o.unlessFault (), w)
  | Cmd.addByKey device vk pw, o, w => w.update device o fun h => h.addByKey who o vk pw
  | Cmd.tokenJsonSet device input, o, w => w.update device o fun h => h.jsonSet who o input
  | Cmd.keyslotDestroy device slot, o, w => w.update device o fun h => h.keyslotDestroy o slot
  | Cmd.setMetadataSize, o, w => (o.unlessFault (), w)
  | Cmd.format device vk, o, w => w.format o device vk
  | Cmd.activateByVolumeKey device name vk, o, w => w.activate o device name vk
  | Cmd.status name, o, w => ((w.mappings name).isSome && o.fault.isNone, w)
  | Cmd.initByName name, o, w =>
      (if (w.mappings name).isSome then o.unlessFault () else Except.error o.text, w)
  | Cmd.deactivate name, o, w =>
      (o.unlessFault (), match o.fault with
        | some _ => w
        | none => { w with mappings := Function.update w.mappings name none })
  | Cmd.getrandom n, o, w => (o.unlessHardwareFault (o.random n), w)
  | Cmd.osRandom n, o, w => (o.random n, w)
  | Cmd.fido2Enroll _ _, o, w => (o.unlessHardwareFault o.enrollment, w)
  | Cmd.fido2EnrolledPaths _ _, o, w => (o.paths, w)
  | Cmd.fido2UnlockFromTokens _ _, o, w => (o.unlessHardwareFault o.secret, w)
  | Cmd.tpm2Seal _ _ _, o, w => (o.unlessHardwareFault o.sealResult, w)
  | Cmd.tpm2UnsealFromTokens _ _, o, w => (o.unlessHardwareFault o.secret, w)
  | Cmd.pathExists path, _, w => (w.fs.pathExists path, w)
  | Cmd.isFile path, _, w => (decide (w.fs.kindAt path = some FileKind.regular), w)
  | Cmd.canonicalize path, _, w => (w.fs.canonicalize path, w)
  | Cmd.readToString path, _, w => (w.fs.text path, w)
  | Cmd.createFile path, o, w => w.createFile o path
  | Cmd.seek _ _, o, w => (o.unlessFault (), w)
  | Cmd.writeAll path _ _, o, w => w.write o path
  | Cmd.chown path uid _, o, w =>
      (o.unlessFault (), match o.fault, w.fs.node path with
        | none, some i => { w with fs := w.fs.chown i uid }
        | _, _ => w)
  | Cmd.wipefs device, o, w => w.write o device
  | Cmd.gptZapAndPartition device, o, w => w.write o device
  | Cmd.partprobe device, o, w => ((), w.partprobe o device)
  | Cmd.uevent, o, w => (o.flag, w)
  | Cmd.sleep, _, w => ((), w)

/-- Time passes, then the command is answered. -/
def exec (who : Option ℕ) : Handler Cmd Reply Oracle World :=
  fun c o w => answer who c o { w with now := w.now + o.elapsed }

end LuksEnroll
