import LuksEnroll.World

/-!
# LUKS2 operations

The functions of `luks.rs`: every one opens its own session on the device (`crypt_init`,
`crypt_load`), and the volume-key cache is what lets several of them run from one unlock.

Each is written as its source has it, in the order of its calls: what a function asks for and what it
makes of the answers is what the statements of the later modules are about, down to the texts of its
errors.  That a key is cached, and under which name, is a command of its own (`Cmd.cacheInsert`).

* reading: `metadataJson` and what is read off it, `fido2TokenRefs`, `tpm2TokenRefs`;
* unlocking: `verifyPassphrase`, `verifyToken`, `getVolumeKey`, by way of `extractTokenVolumeKey`;
* changing: `addKeyslotByVolumeKey`, `setToken`, `destroyKeyslot`, and the two formats;
* mapping: `activateVolume` and `deactivateVolume`.

Left out are the locks and the memory of the source: a cache is a table of the world, and wiping a key
from memory shows in no answer.
-/

namespace LuksEnroll

open Library

/-- `str::as_bytes`. -/
def asBytes (s : String) : Bytes := s.toUTF8.data.toList

/-- `i32`. -/
abbrev I32 := { n : ℤ // -2147483648 ≤ n ∧ n ≤ 2147483647 }

lemma i32_zero : -2147483648 ≤ (0 : ℤ) ∧ (0 : ℤ) ≤ 2147483647 := by decide

lemma i32_one : -2147483648 ≤ (1 : ℤ) ∧ (1 : ℤ) ≤ 2147483647 := by decide

/-- `n as u32` for an `i32`. -/
def asU32 (n : ℤ) : ℕ := (n % 4294967296).toNat

/-! ## Opening and reading

A session initializes the device and loads the header.  The metadata is asked for in a session of
its own, and a failure there reads as no metadata.
-/

/-- `open_luks2`. -/
def openLuks2 (device : String) : Op Header := do
  orFail (← ask (Cmd.init device)) fun _ => "Failed to open device"
  orFail (← ask (Cmd.load device)) fun _ => "Failed to load LUKS2 header"

/-- `metadata_json`: `none` on any failure. -/
def metadataJson (device : String) : Op (Option Json) := do
  match ← (openLuks2 device).attempt with
  | Except.error _ => return none
  | Except.ok loaded => return (← ask (Cmd.dumpJson loaded)).toOption

/-- `list_keyslots`. -/
def listKeyslots (device : String) : Op (OrderedMap ℤ String) := do
  return keyslotsIn (← metadataJson device)

/-- `find_token_for_keyslot`. -/
def findTokenForKeyslot (device : String) (slot : ℤ) : Op ℤ := do
  return tokenForKeyslotIn slot (← metadataJson device)

/-- The tokens of one type, with `read` the parser of the type. -/
def tokenRefs {α : Type} (read : Json → Except String (List α)) (device : String) :
    Op (List α) := do
  match ← metadataJson device with
  | none => Prog.fail "Failed to read LUKS2 metadata"
  | some metadata => Prog.ofExcept (read metadata)

/-- `fido2_token_refs`. -/
def fido2TokenRefs (device : String) : Op (List Fido2TokenRef) := tokenRefs fido2RefsFromMeta device

/-- `tpm2_token_refs`. -/
def tpm2TokenRefs (device : String) : Op (List Tpm2TokenRef) := tokenRefs tpm2RefsFromMeta device

/-- `is_volume_key_cached`. -/
def isVolumeKeyCached (device : String) : Op Bool := do
  return (← ask (Cmd.cacheGet device)).isSome

/-! ## Unlocking

The ways to a volume key: the cache, a passphrase, or a token, whose secret is a passphrase in the
end.
-/

/-- `verify_passphrase`: the matching keyslot; the volume key goes to the cache. -/
def verifyPassphrase (device passphrase : String) : Op ℕ := do
  let loaded ← openLuks2 device
  let (slot, vk) ← orFail (← ask (Cmd.volumeKeyGet loaded none (asBytes passphrase))) fun _ =>
    "Incorrect passphrase or recovery key"
  ask (Cmd.cacheInsert device vk)
  return slot

/-- The raw secret behind a token, from the hardware. -/
def rawTokenSecret (device tokenType pin : String) : Op Bytes :=
  if tokenType = tokenTypeFido2 then do
    let refs ← fido2TokenRefs device
    orFail (← ask (Cmd.fido2UnlockFromTokens refs pin)) id
  else if tokenType = tokenTypeTpm2 then do
    let refs ← tpm2TokenRefs device
    orFail (← ask (Cmd.tpm2UnsealFromTokens refs pin)) id
  else Prog.fail ("Unknown token type: " ++ tokenType)

/-- `derive_passphrase_from_token`: the secret goes into the keyslot in its base64 form. -/
def derivePassphraseFromToken (device tokenType pin : String) : Op Bytes := do
  return asBytes (Base64.encode (← rawTokenSecret device tokenType pin))

/-- The loop of `extract_token_volume_key`: the first candidate that opens. -/
def tryCandidates (loaded : Header) (pw : Bytes) :
    List (Option ℕ) → Option String → Op (ℕ × VolumeKey)
  | [], lastErr =>
      Prog.fail ((lastErr.map fun e => "libcryptsetup: " ++ e).getD "volume key extraction failed")
  | slot :: rest, _ => do
      match ← ask (Cmd.volumeKeyGet loaded slot pw) with
      | Except.ok found => return found
      | Except.error e => tryCandidates loaded pw rest (some e)

/-- `extract_token_volume_key`: the keyslots of the type's tokens first, then any. -/
def extractTokenVolumeKey (device tokenType : String) (pw : Bytes) : Op (ℕ × VolumeKey) := do
  let loaded ← openLuks2 device
  let metadata := (← ask (Cmd.dumpJson loaded)).toOption.getD Json.null
  let candidates := (tokenTypeKeyslots metadata tokenType).map fun s => some (asU32 s)
  tryCandidates loaded pw (candidates ++ [none]) none

/-- `verify_token`: the keyslot that a token opens, whose key is then cached. -/
def verifyToken (device tokenType pin : String) : Op ℕ :=
  if tokenType ≠ tokenTypeFido2 ∧ tokenType ≠ tokenTypeTpm2 then
    Prog.fail "Unsupported token type"
  else do
    let pw ← derivePassphraseFromToken device tokenType pin
    let (slot, vk) ← (extractTokenVolumeKey device tokenType pw).mapErr fun e =>
      "Token unlock failed (" ++ e ++ ")"
    ask (Cmd.cacheInsert device vk)
    return slot

/-- `{:?}` of a string, as far as quotes, backslashes and line ends go. -/
def debugStr (s : String) : String := Json.renderStr s

/-- The unlock methods `get_volume_key` takes. -/
def validUnlockMethod (m : String) : Bool :=
  decide (m = "passphrase" ∨ m = tokenTypeFido2 ∨ m = tokenTypeTpm2)

/-- A volume key that was not in the cache. -/
def coldVolumeKey (device unlockMethod passphrase unlockPin : String) : Op VolumeKey :=
  if unlockMethod ≠ "passphrase" then do
    let pw ← derivePassphraseFromToken device unlockMethod unlockPin
    let (_, vk) ← (extractTokenVolumeKey device unlockMethod pw).mapErr fun e =>
      "Failed to get volume key (" ++ e ++ ")"
    return vk
  else do
    let loaded ← openLuks2 device
    let (_, vk) ← orFail (← ask (Cmd.volumeKeyGet loaded none (asBytes passphrase))) fun e =>
      "Failed to get volume key (" ++ e ++ ")"
    return vk

/-- `get_volume_key`: from the cache, or extracted and then cached. -/
def getVolumeKey (device unlockMethod passphrase unlockPin : String) : Op VolumeKey :=
  if validUnlockMethod unlockMethod then do
    match ← ask (Cmd.cacheGet device) with
    | some vk => return vk
    | none =>
        let vk ← coldVolumeKey device unlockMethod passphrase unlockPin
        ask (Cmd.cacheInsert device vk)
        return vk
  else Prog.fail ("Invalid unlock method: " ++ debugStr unlockMethod)

/-! ## Activation

Names, mounts, and the mapping itself.
-/

/-- `valid_mapper_name`. -/
def validMapperName (name : String) : Bool :=
  decide (name ≠ "") && decide (name.utf8ByteSize ≤ 128)
    && name.toList.all fun c => c.isAlphanum || c == '-' || c == '_'

/-- The first field of a line. -/
def firstField (line : List Char) : List Char :=
  (line.dropWhile isWhiteSpace).takeWhile fun c => !isWhiteSpace c

/-- `mounts_reference`: some line of the mount table names the mapper path or the node behind it. -/
def mountsReference (procMounts mapper : String) (dmNode : Option String) : Bool :=
  (splitChar '\n' procMounts.toList).any fun line =>
    decide (firstField line ≠ []) && (decide (String.ofList (firstField line) = mapper)
      || decide (dmNode = some (String.ofList (firstField line))))

/-- `mapping_is_mounted`; a table that cannot be read says no. -/
def mappingIsMounted (name : String) : Op Bool := do
  let mapper := "/dev/mapper/" ++ name
  let dmNode ← ask (Cmd.canonicalize mapper)
  match ← ask (Cmd.readToString "/proc/mounts") with
  | some m => return mountsReference m mapper dmNode
  | none => return false

/-- `activate_volume`: an already active name is left alone. -/
def activateVolume (device name unlockMethod passphrase unlockPin : String) : Op Unit :=
  if validMapperName name then do
    if ← ask (Cmd.status name) then return ()
    else do
      let vk ← getVolumeKey device unlockMethod passphrase unlockPin
      let _ ← openLuks2 device
      orFail (← ask (Cmd.activateByVolumeKey device name vk)) fun e =>
        "crypt_activate_by_volume_key failed: " ++ e
  else Prog.fail "Invalid mapper name"

/-- `deactivate_volume`: a mapping that is not there is already closed. -/
def deactivateVolume (name : String) : Op Unit :=
  if validMapperName name then do
    if ← ask (Cmd.status name) then
      if ← mappingIsMounted name then
        Prog.fail "The volume's filesystem is mounted; unmount it before closing"
      else do
        orFail (← ask (Cmd.initByName name)) fun e => "crypt_init_by_name failed: " ++ e
        orFail (← ask (Cmd.deactivate name)) fun e => "crypt_deactivate failed: " ++ e
    else return ()
  else Prog.fail "Invalid mapper name"

/-! ## Mutations

One session for each write.
-/

/-- The minimal PBKDF of high-entropy secrets: pbkdf2, sha512, 1000 iterations. -/
def choosePbkdf (minimalPbkdf : Bool) : Op Unit :=
  if minimalPbkdf then do
    orFail (← ask Cmd.setPbkdfType) fun e => "set_pbkdf_type failed: " ++ e
  else return ()

/-- `add_keyslot_by_volume_key`. -/
def addKeyslotByVolumeKey (device : String) (vk : VolumeKey) (newPassphrase : Bytes)
    (minimalPbkdf : Bool) : Op ℕ := do
  let _ ← openLuks2 device
  choosePbkdf minimalPbkdf
  orFail (← ask (Cmd.addByKey device (some vk) newPassphrase)) fun e =>
    "crypt_keyslot_add_by_key failed: " ++ e

/-- The input that `set_token` makes of its arguments. -/
def tokenInput (tokenId : ℤ) : Option Json → TokenInput
  | none => TokenInput.remove (asU32 tokenId)
  | some json =>
      if tokenId < 0 then TokenInput.add json else TokenInput.replace (asU32 tokenId) json

/-- `set_token`: no JSON removes the token, a negative id allocates. -/
def setToken (device : String) (tokenId : ℤ) (tokenJson : Option Json) : Op ℕ := do
  let _ ← openLuks2 device
  orFail (← ask (Cmd.tokenJsonSet device (tokenInput tokenId tokenJson))) fun e =>
    "crypt_token_json_set failed: " ++ e

/-- `destroy_keyslot`. -/
def destroyKeyslot (device : String) (slot : ℤ) : Op Unit := do
  let _ ← openLuks2 device
  orFail (← ask (Cmd.keyslotDestroy device (asU32 slot))) fun e =>
    "crypt_keyslot_destroy failed: " ++ e

/-! ## Formatting

Formatting with a passphrase or without; the second puts its key in the cache.
-/

/-- `KeyslotsArea`. -/
inductive KeyslotsArea : Type
  | default
  | compact
  deriving DecidableEq

/-- `apply_keyslots_area`. -/
def applyKeyslotsArea (area : KeyslotsArea) : Op Unit :=
  if area = KeyslotsArea.compact then do
    orFail (← ask Cmd.setMetadataSize) fun e => "crypt_set_metadata_size failed: " ++ e
  else return ()

/-- `luks::format_luks2`: a generated volume key and one passphrase keyslot. -/
def formatLuks2 (path passphrase : String) (area : KeyslotsArea) : Op ℕ := do
  orFail (← ask (Cmd.init path)) fun _ => "crypt_init failed"
  applyKeyslotsArea area
  orFail (← ask (Cmd.format path none)) fun e => "crypt_format failed: " ++ e
  orFail (← ask (Cmd.addByKey path none (asBytes passphrase))) fun e =>
    "crypt_keyslot_add_by_key failed: " ++ e

/-- `format_luks2_keyless`: no keyslot; the volume key lives in the cache only. -/
def formatLuks2Keyless (path : String) (area : KeyslotsArea) : Op Unit := do
  let vk ← ask (Cmd.osRandom 64)
  orFail (← ask (Cmd.init path)) fun _ => "crypt_init failed"
  applyKeyslotsArea area
  orFail (← ask (Cmd.format path (some ⟨vk⟩))) fun e => "crypt_format failed: " ++ e
  ask (Cmd.cacheInsert path ⟨vk⟩)

/-! ## A volume to look at

A header with one passphrase, for the examples of this and other modules.
-/

/-- A service just started, and at `/dev/sdb1` a volume that these passphrases open, the first at
keyslot 0. -/
def passphraseVolume (passphrases : List String) (hlen : passphrases.length ≤ keyslotsMax) : World :=
  World.start (FileSystem.ofList [("/dev/sdb1", FileKind.block "sdb" false, 0)] [])
    fun i => if i = 0 then
      some (Header.ofKeyslots ⟨[7]⟩ (passphrases.map fun pw => ⟨"luks2", asBytes pw, true, none⟩)
        (by simpa using hlen)) else none

/-- A service just started, and at `/dev/sdb1` a volume with this header. -/
def volumeWith (h : Header) : World :=
  World.start (FileSystem.ofList [("/dev/sdb1", FileKind.block "sdb" false, 0)] [])
    fun i => if i = 0 then some h else none

end LuksEnroll
