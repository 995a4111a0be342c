import LuksEnroll.Format

/-!
# The operation layer

The `op_*` functions of `service.rs`: each wraps a body in `run_op`, which turns any failure into
a generic triple, and the three token enrollments share one spine, `enroll_token`.

`storeToken` and `wipeRest` name the tails of an enrollment and of a wipe: what is left to do once
the keyslot has been added, or once the last-keyslot guard has been passed.  Statements about
interleavings use them to say where a request stands.

`Prepared` is what an enrollment brings with it to the spine: the secret of the keyslot, the token to be
stored with it, and what the user is told.  Each of the three preparations may fail, and then nothing
has been written.
-/

namespace LuksEnroll

open Library

/-- `(ok, stdout, stderr)`. -/
abbrev Triple := Bool × String × String

/-- `op_failed`. -/
def opFailed : Triple := (false, "", "Operation failed")

/-- `run_op`: a failure is logged and returned as the generic triple. -/
def runOp (body : Op Triple) : Op Triple := do
  match ← body.attempt with
  | Except.ok t => return t
  | Except.error _ => return opFailed

/-! ## Token JSON

The tokens as the service writes them.
-/

/-- The two hexadecimal digits of a byte. -/
def hexDigits (b : UInt8) : List Char :=
  [Nat.digitChar (b.toNat / 16), Nat.digitChar (b.toNat % 16)]

/-- `hex_encode`. -/
def hexEncode (bytes : Bytes) : String := String.ofList (bytes.flatMap hexDigits)

/-- `fido2_token_json`. -/
def fido2TokenJson (credId salt : Bytes) (clientPinRequired : Bool) : Json :=
  Json.obj [
    ("type", Json.str tokenTypeFido2),
    ("fido2-credential", Json.str (Base64.encode credId)),
    ("fido2-salt", Json.str (Base64.encode salt)),
    ("fido2-rp", Json.str "io.systemd.cryptsetup"),
    ("fido2-clientPin-required", Json.bool clientPinRequired),
    ("fido2-up-required", Json.bool true),
    ("fido2-uv-required", Json.bool false)]

/-- `tpm2_token_json`. -/
def tpm2TokenJson (result : SealResult) (pcrList : List ℤ) (pin : Bool) : Json :=
  Json.obj [
    ("type", Json.str tokenTypeTpm2),
    ("tpm2-blob", Json.str (Base64.encode result.blob)),
    ("tpm2_blob", Json.str (Base64.encode result.blob)),
    ("tpm2-pcrs", Json.arr (pcrList.map Json.num)),
    ("tpm2-pcr-bank", Json.str "sha256"),
    ("tpm2-primary-alg", Json.str result.primaryAlg),
    ("tpm2-policy-hash", Json.str (hexEncode result.policyHash)),
    ("tpm2-pin", Json.bool pin),
    ("tpm2_pubkey_pcrs", Json.arr []),
    ("tpm2_pcr_hash", Json.str "sha256"),
    ("tpm2_pcrlock", Json.bool false),
    ("tpm2_srk", Json.str (Base64.encode result.srkBlob))]

/-- `recovery_token_json`. -/
def recoveryTokenJson : Json := Json.obj [("type", Json.str tokenTypeRecovery)]

/-! ## Enrollment

The head that all enrollments share, and what each of them prepares.
-/

/-- `Prepared`: what an enrollment modality produces before the volume is touched. -/
structure Prepared where
  keyslotSecret : Bytes
  minimalPbkdf : Bool
  stdout : String
  token : Json

/-- The tail of `enroll_token`: stamp the new keyslot into the token and store it. -/
def storeToken (device : String) (prepared : Prepared) (keyslot : ℕ) : Op Triple := do
  let token := prepared.token.set "keyslots" (Json.arr [Json.str (toString keyslot)])
  let _ ← setToken device (-1) (some token)
  return (true, prepared.stdout, "")

/-- `enroll_token`. -/
def enrollToken (device unlockMethod unlockPin passphrase : String) (prepare : Op Prepared) :
    Op Triple := do
  let prepared ← prepare
  let vk ← getVolumeKey device unlockMethod passphrase unlockPin
  let keyslot ← addKeyslotByVolumeKey device vk prepared.keyslotSecret prepared.minimalPbkdf
  storeToken device prepared keyslot

/-- A PIN is passed on only when there is one. -/
def optionalPin (pin : String) : Option String := if pin = "" then none else some pin

/-- The secret and the token of an authenticator. -/
def prepareFido2 (fido2Device pin : String) : Op Prepared := do
  let enrollment ← orFail (← ask (Cmd.fido2Enroll fido2Device (optionalPin pin))) id
  return {
    keyslotSecret := asBytes (Base64.encode enrollment.hmacSecret)
    minimalPbkdf := true
    stdout := ""
    token := fido2TokenJson enrollment.credId enrollment.salt (decide (pin ≠ "")) }

/-- The credentials of the FIDO2 tokens on a volume, none when they cannot be read. -/
def existingCreds (device : String) : Op (List Bytes) := do
  match ← (fido2TokenRefs device).attempt with
  | Except.ok refs => return refs.map Fido2TokenRef.credId
  | Except.error _ => return []

/-- Is this authenticator already enrolled on the volume? -/
def alreadyEnrolled (device fido2Device : String) : Op Bool := do
  let creds ← existingCreds device
  if creds = [] then return false
  else return decide ((← ask (Cmd.fido2EnrolledPaths [fido2Device] creds)) ≠ [])

/-- `op_enroll_fido2`. -/
def opEnrollFido2 (device passphrase pin fido2Device unlockMethod unlockPin : String) :
    Op Triple :=
  runOp do
    if ← alreadyEnrolled device fido2Device then
      return (false, "", "This FIDO2 token is already enrolled on this volume")
    else enrollToken device unlockMethod unlockPin passphrase (prepareFido2 fido2Device pin)

/-- The PCR list of a TPM2 token, from the text `7+11`. -/
def pcrList (pcrs : String) : Except String (List ℤ) :=
  (((splitChar '+' pcrs.toList).map fun p => trim (String.ofList p)).filter fun p =>
    decide (p ≠ "")).mapM fun p =>
      match parseInt (-9223372036854775808) 9223372036854775807 p with
      | some n => Except.ok n
      | none => Except.error ("bad PCR: " ++ p)

/-- The secret and the token of the TPM; the registers of the token are parsed once more. -/
def prepareTpm2 (pcrs pin : String) : Op Prepared := do
  let secret ← orFail (← ask (Cmd.getrandom 32)) id
  let result ← orFail (← ask (Cmd.tpm2Seal secret pcrs pin)) id
  let list ← Prog.ofExcept (pcrList pcrs)
  return {
    keyslotSecret := asBytes (Base64.encode secret)
    minimalPbkdf := true
    stdout := ""
    token := tpm2TokenJson result list (decide (pin ≠ "")) }

/-- `op_enroll_tpm2`. -/
def opEnrollTpm2 (device passphrase pin pcrs unlockMethod unlockPin : String) : Op Triple :=
  runOp (enrollToken device unlockMethod unlockPin passphrase (prepareTpm2 pcrs pin))

/-- `MODHEX`. -/
def modhex : List Char := "cbdefghijklnrtuv".toList

/-- `make_recovery_key`, as a function of its random bytes: groups of eight symbols, joined by
dashes. -/
def makeRecoveryKey (raw : Bytes) : String :=
  let chars := raw.flatMap fun b =>
    [modhex.getD (b.toNat / 16) 'c', modhex.getD (b.toNat % 16) 'c']
  String.ofList (List.intercalate ['-'] (chars.toChunks 8))

/-- The secret and the token of a recovery key, which is also what the user is told. -/
def prepareRecoveryKey : Op Prepared := do
  let key := makeRecoveryKey (← ask (Cmd.osRandom 32))
  return {
    keyslotSecret := asBytes key
    minimalPbkdf := true
    stdout := key
    token := recoveryTokenJson }

/-- `op_enroll_recovery_key`. -/
def opEnrollRecoveryKey (device passphrase unlockMethod unlockPin : String) : Op Triple :=
  runOp (enrollToken device unlockMethod unlockPin passphrase prepareRecoveryKey)

/-- `op_enroll_passphrase`: a keyslot and no token. -/
def opEnrollPassphrase (device existingPassphrase newPassphrase unlockMethod unlockPin : String) :
    Op Triple :=
  runOp do
    let vk ← getVolumeKey device unlockMethod existingPassphrase unlockPin
    let _ ← addKeyslotByVolumeKey device vk (asBytes newPassphrase) false
    return (true, "", "")

/-! ## Wiping

The guard, the token, and the keyslot.
-/

/-- The tail of `op_wipe_slot`, past the last-keyslot guard. -/
def wipeRest (device : String) (slot : ℤ) : Op Triple := do
  let tokenId ← findTokenForKeyslot device slot
  (if 0 ≤ tokenId then do
    let _ ← setToken device tokenId none
    return ()
  else return ())
  destroyKeyslot device slot
  return (true, "", "")

/-- The guard's answer. -/
def lastKeyslot : Triple := (false, "", "Cannot wipe the last remaining keyslot")

/-- `op_wipe_slot`. -/
def opWipeSlot (device passphrase unlockMethod pin : String) (slot : I32) : Op Triple :=
  runOp do
    let _ ← getVolumeKey device unlockMethod passphrase pin
    let slots ← listKeyslots device
    if slots.entries.length ≤ 1 ∧ slot.val ∈ slots.keys then return lastKeyslot
    else wipeRest device slot.val

/-! ## Opening, closing, creating, formatting

The bodies of the other methods.
-/

/-- `op_open_volume`. -/
def opOpenVolume (device name passphrase unlockMethod unlockPin : String) : Op Triple := do
  match ← (activateVolume device name unlockMethod passphrase unlockPin).attempt with
  | Except.ok _ => return (true, name, "")
  | Except.error e => return (false, "", e)

/-- `op_close_volume`. -/
def opCloseVolume (name : String) : Op (Bool × String) := do
  match ← (deactivateVolume name).attempt with
  | Except.ok _ => return (true, "")
  | Except.error e => return (false, e)

/-- `format_container`: the first keyslot, or `-1` when none was created. -/
def formatContainer (path passphrase : String) : Op ℤ :=
  if passphrase = "" then do
    formatLuks2Keyless path KeyslotsArea.default
    return -1
  else do
    let slot ← formatLuks2 path passphrase KeyslotsArea.default
    return slot

/-- Create, format and hand over a container file. -/
def createContainer (realPath : String) (sizeMb : ℤ) (passphrase : String)
    (owner : Option (ℕ × ℕ)) : Op ℤ := do
  createImageFile realPath sizeMb
  let keyslot ← formatContainer realPath passphrase
  (match owner with
    | some (uid, gid) => do orFail (← ask (Cmd.chown realPath uid gid)) id
    | none => return ())
  return keyslot

/-- The outcome of a create as `(ok, keyslot, stderr)`. -/
def runCreate (body : Op ℤ) : Op (Bool × ℤ × String) := do
  match ← body.attempt with
  | Except.ok keyslot => return (true, keyslot, "")
  | Except.error _ => return (false, -1, "Operation failed")

/-- Under `/home/` or `/tmp/`, as the text says. -/
def underHomeOrTmp (path : String) : Bool :=
  "/home/".toList.isPrefixOf path.toList || "/tmp/".toList.isPrefixOf path.toList

/-- `op_create_encrypted_image`. -/
def opCreateEncryptedImage (realPath : String) (sizeMb : ℤ) (passphrase : String)
    (owner : Option (ℕ × ℕ)) : Op (Bool × ℤ × String) := do
  if ← ask (Cmd.pathExists realPath) then
    if ← ask (Cmd.isFile realPath) then return (false, -1, "A file already exists at this path")
    else return (false, -1, "Path must be a regular file")
  else if underHomeOrTmp realPath then
    runCreate (createContainer realPath sizeMb passphrase owner)
  else return (false, -1, "Path must be under /home/ or /tmp/")

/-- `op_create_image_fd`. -/
def opCreateImageFd (path passphrase : String) : Op (Bool × ℤ × String) :=
  runCreate (formatContainer path passphrase)

/-- `op_format_partition`. -/
def opFormatPartition (device passphrase : String) : Op Triple := do
  match ← (formatRemovablePartition device passphrase).attempt with
  | Except.ok partition => return (true, partition, "")
  | Except.error _ => return opFailed

/-! ## Requests

The five requests on keyslots as one type.
-/

/-- The requests that change keyslots and tokens.  The `*Fd` methods run the same bodies with the
descriptor's path as `device`. -/
inductive SlotRequest : Type
  | enrollFido2 (device passphrase pin fido2Device unlockMethod unlockPin : String)
  | enrollTpm2 (device passphrase pin pcrs unlockMethod unlockPin : String)
  | enrollRecoveryKey (device passphrase unlockMethod unlockPin : String)
  | enrollPassphrase (device existingPassphrase newPassphrase unlockMethod unlockPin : String)
  | wipeSlot (device passphrase unlockMethod pin : String) (slot : I32)

namespace SlotRequest

/-- The device a request works on. -/
def device : SlotRequest → String
  | enrollFido2 device _ _ _ _ _ => device
  | enrollTpm2 device _ _ _ _ _ => device
  | enrollRecoveryKey device _ _ _ => device
  | enrollPassphrase device _ _ _ _ => device
  | wipeSlot device _ _ _ _ => device

/-- Enrollments that write a keyslot and a token for it. -/
def EnrollsToken : SlotRequest → Prop
  | enrollFido2 _ _ _ _ _ _ => True
  | enrollTpm2 _ _ _ _ _ _ => True
  | enrollRecoveryKey _ _ _ _ => True
  | enrollPassphrase _ _ _ _ _ => False
  | wipeSlot _ _ _ _ _ => False

/-- What a request does. -/
def body : SlotRequest → Op Triple
  | enrollFido2 device passphrase pin fido2Device unlockMethod unlockPin =>
      opEnrollFido2 device passphrase pin fido2Device unlockMethod unlockPin
  | enrollTpm2 device passphrase pin pcrs unlockMethod unlockPin =>
      opEnrollTpm2 device passphrase pin pcrs unlockMethod unlockPin
  | enrollRecoveryKey device passphrase unlockMethod unlockPin =>
      opEnrollRecoveryKey device passphrase unlockMethod unlockPin
  | enrollPassphrase device existingPassphrase newPassphrase unlockMethod unlockPin =>
      opEnrollPassphrase device existingPassphrase newPassphrase unlockMethod unlockPin
  | wipeSlot device passphrase unlockMethod pin slot =>
      opWipeSlot device passphrase unlockMethod pin slot

end SlotRequest

end LuksEnroll
