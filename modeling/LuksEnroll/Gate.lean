import LuksEnroll.FileSystem
import LuksEnroll.Library.Pool
import Mathlib.Tactic.SplitIfs

/-!
# The authorization gate

Every path-based method passes `gate` before its body runs: by an unexpired entry of the sender in
the authorization cache, by owning the file it operates on, or by polkit.  The last two both end in
a new entry, and the entry does not say which of them made it.

So an admission by ownership is good for anything the sender asks for in the next five minutes: who
has just verified a passphrase on an image file of their own may close the mapping of any other
volume (`closed_on_the_strength_of_a_file`), although that method has no file to fall back on.
Bodies run only with polkit's approval or on an operand the sender owns as long as no request meets
the entry of an admission by ownership that would not have admitted it too.

Requests are threads of a pool: the gate waits for the bus and for polkit, and other requests go on
in the meantime.  The file system stays as it is.

The invariant says of every entry in the Manage cache that it is polkit's, or that of the last admission
by ownership (`Gatekeeper.Sound`).  What a request relies on while others go on is that approvals stay
(`Gatekeeper.Grows`); each function of the source is shown once to keep the one under the other, and the
pool does the rest.
-/

namespace LuksEnroll

open Library
open Prog (AllCalls Within)

/-! ## Commands

What the gate asks for, and whom.  A recorded entry remembers for the model by which route it came
about; the service itself does not.
-/

/-- The two polkit actions. -/
inductive AuthKind : Type
  | read
  | manage
  deriving DecidableEq

/-- `fdo::Error`, as far as the service answers with it. -/
inductive SvcError : Type
  | notAuthorized (message : String)
  | invalidArgs (message : String)
  | failed (message : String)

/-- How a request passed the gate without the cache.  The code does not keep it. -/
inductive Route : Type
  | ownership
  | polkit
  deriving DecidableEq

/-- What the gate asks for: its cache, the bus, the file system and polkit. -/
inductive GateCmd : Type
  | authCached (kind : AuthKind) (sender : String)
  | callerUid (sender : String)
  | canonicalize (path : String)
  | metadata (path : String)
  | checkPolkit (kind : AuthKind) (sender : String)
  | recordAuth (kind : AuthKind) (sender : String) (route : Route)
  | resetIdle
  /-- The body of the method starts. -/
  | enter

/-- What it is told. -/
abbrev GateReply : GateCmd → Type
  | GateCmd.authCached _ _ => Bool
  | GateCmd.callerUid _ => Option ℕ
  | GateCmd.canonicalize _ => Option String
  | GateCmd.metadata _ => Option (FileKind × ℕ)
  | GateCmd.checkPolkit _ _ => Bool
  | GateCmd.recordAuth _ _ _ => Unit
  | GateCmd.resetIdle => Unit
  | GateCmd.enter => Unit

/-- A computation in front of a body, which fails with an error of the bus. -/
abbrev GateOp (α : Type) := Prog GateCmd GateReply SvcError α

/-- Issue a command of the gate. -/
def pose (c : GateCmd) : GateOp (GateReply c) := Prog.perform c

/-! ## The gate

The functions in the order of the source, on the answers to these commands.
-/

/-- `LuksEnrollService::realpath`. -/
def realpath (path : String) : GateOp String := do
  match ← pose (GateCmd.canonicalize path) with
  | some p => return p
  | none =>
      match pathParent path, pathFileName path with
      | some parent, some name =>
          match ← pose (GateCmd.canonicalize parent) with
          | some rp => return pathJoin rp name
          | none => return path
      | _, _ => return path

/-- What ownership is tested on: the file, or for a new image the directory it goes to. -/
def ownershipTarget (createImage : Bool) (real : String) : Option String :=
  if createImage then pathParent real else some real

/-- The kind that the target must have. -/
def ownedKind (createImage : Bool) : FileKind :=
  if createImage then FileKind.directory else FileKind.regular

/-- The ownership test of `gate`: may polkit be skipped? -/
def ownershipSkip (sender : String) (ownedPath : Option String) (createImage : Bool) :
    GateOp Bool := do
  match ownedPath with
  | none => return false
  | some arg0 =>
      match ← pose (GateCmd.callerUid sender) with
      | none => return false
      | some uid => do
          let real ← realpath arg0
          match ownershipTarget createImage real with
          | none => return false
          | some target =>
              match ← pose (GateCmd.metadata target) with
              | none => return false
              | some (kind, owner) => return decide (kind = ownedKind createImage ∧ owner = uid)

/-- `gate`: an entry in the cache, then ownership where it counts, then polkit. -/
def gate (sender : String) (kind : AuthKind) (ownedPath : Option String) (createImage : Bool) :
    GateOp Unit := do
  if ← pose (GateCmd.authCached kind sender) then pose GateCmd.resetIdle
  else if ← ownershipSkip sender ownedPath createImage then do
    pose (GateCmd.recordAuth kind sender Route.ownership)
    pose GateCmd.resetIdle
  else if ← pose (GateCmd.checkPolkit kind sender) then do
    pose (GateCmd.recordAuth kind sender Route.polkit)
    pose GateCmd.resetIdle
  else
    Prog.fail (SvcError.notAuthorized "Authorization required for LUKS enrollment operations")

/-- `validate_device`: the path is resolved, and must be a regular file or a block device. -/
def validateDevice (path : String) : GateOp String := do
  let real ← realpath path
  match ← pose (GateCmd.metadata real) with
  | none => Prog.fail (SvcError.invalidArgs "Device path does not exist")
  | some (FileKind.regular, _) => return real
  | some (FileKind.block _ _, _) => return real
  | some _ => Prog.fail (SvcError.invalidArgs "Path is not a block device or regular file")

/-- `MAX_STRING_LEN`: 10 MiB. -/
def maxStringLen : ℕ := 10 * 1024 * 1024

/-- `check_lens`: no parameter is too long. -/
def checkLens (args : List String) : GateOp Unit :=
  if args.any fun a => maxStringLen < a.utf8ByteSize then
    Prog.fail (SvcError.invalidArgs "Parameter exceeds maximum length")
  else return ()

/-- `gate_device`: the gate, the path, and the lengths, in this order. -/
def gateDevice (sender : String) (kind : AuthKind) (device : String) (extra : List String) :
    GateOp String := do
  gate sender kind (some device) false
  let device ← validateDevice device
  checkLens (device :: extra)
  return device

/-! ## Methods

Every method of the interface with its gate and its body.  The bodies are one command here; the gate
is what this module is about.
-/

/-- The path-based methods, with the arguments that their gating looks at. -/
inductive Method : Type
  | verifyPassphrase (device passphrase : String)
  | unlockWithToken (device tokenType pin : String)
  | openVolume (device name passphrase unlockMethod unlockPin : String)
  | closeVolume (name : String)
  | enrollFido2 (device passphrase pin fido2Device unlockMethod unlockPin : String)
  | enrollTpm2 (device passphrase pin pcrs unlockMethod unlockPin : String)
  | enrollRecoveryKey (device passphrase unlockMethod unlockPin : String)
  | enrollPassphrase (device existingPassphrase newPassphrase unlockMethod unlockPin : String)
  | wipeSlot (device passphrase unlockMethod pin : String)
  | createEncryptedImage (path passphrase : String)
  | formatPartition (device passphrase : String)
  | setSetting (key value : String)
  | authenticate
  | detectDevices
  | getKeyslots (device : String)
  | getTokensByType (device tokenType : String)
  | findPasswordKeyslots (device : String)
  | isVolumeKeyCached (device : String)
  | detectRemovableDevices
  | getDeviceInfo (device : String)
  | getSetting (key : String)
  | checkFido2Enrolled (device : String)

/-- A method on a device: the gate, then the body. -/
def deviceMethod (sender : String) (kind : AuthKind) (device : String) (extra : List String) :
    GateOp Unit := do
  let _ ← gateDevice sender kind device extra
  pose GateCmd.enter

/-- A method without an operand to own. -/
def plainMethod (sender : String) (kind : AuthKind) (args : List String) : GateOp Unit := do
  gate sender kind none false
  checkLens args
  pose GateCmd.enter

/-- The handler of a method, up to the start of its body. -/
def Method.handle (sender : String) : Method → GateOp Unit
  | verifyPassphrase device passphrase =>
      deviceMethod sender AuthKind.manage device [passphrase]
  | unlockWithToken device tokenType pin => do
      let _ ← gateDevice sender AuthKind.manage device [tokenType, pin]
      if tokenType ≠ "systemd-fido2" ∧ tokenType ≠ "systemd-tpm2" then
        Prog.fail (SvcError.failed "Operation failed")
      else pose GateCmd.enter
  | openVolume device name passphrase unlockMethod unlockPin =>
      deviceMethod sender AuthKind.manage device [name, passphrase, unlockMethod, unlockPin]
  | closeVolume name => plainMethod sender AuthKind.manage [name]
  | enrollFido2 device passphrase pin fido2Device unlockMethod unlockPin =>
      deviceMethod sender AuthKind.manage device
        [passphrase, pin, fido2Device, unlockMethod, unlockPin]
  | enrollTpm2 device passphrase pin pcrs unlockMethod unlockPin =>
      deviceMethod sender AuthKind.manage device [passphrase, pin, pcrs, unlockMethod, unlockPin]
  | enrollRecoveryKey device passphrase unlockMethod unlockPin =>
      deviceMethod sender AuthKind.manage device [passphrase, unlockMethod, unlockPin]
  | enrollPassphrase device existingPassphrase newPassphrase unlockMethod unlockPin =>
      deviceMethod sender AuthKind.manage device
        [existingPassphrase, newPassphrase, unlockMethod, unlockPin]
  | wipeSlot device passphrase unlockMethod pin =>
      deviceMethod sender AuthKind.manage device [passphrase, unlockMethod, pin]
  | createEncryptedImage path passphrase => do
      gate sender AuthKind.manage (some path) true
      let realPath ← realpath path
      checkLens [realPath, passphrase]
      -- the owner of the new file; a lookup that fails makes the body refuse
      let _ ← pose (GateCmd.callerUid sender)
      pose GateCmd.enter
  | formatPartition device passphrase => deviceMethod sender AuthKind.manage device [passphrase]
  | setSetting key value => plainMethod sender AuthKind.manage [key, value]
  | authenticate => plainMethod sender AuthKind.manage []
  | detectDevices => plainMethod sender AuthKind.read []
  | getKeyslots device => deviceMethod sender AuthKind.read device []
  | getTokensByType device tokenType => deviceMethod sender AuthKind.read device [tokenType]
  | findPasswordKeyslots device => deviceMethod sender AuthKind.read device []
  | isVolumeKeyCached device => deviceMethod sender AuthKind.read device []
  | detectRemovableDevices => plainMethod sender AuthKind.read []
  | getDeviceInfo device => deviceMethod sender AuthKind.read device []
  | getSetting key => plainMethod sender AuthKind.read [key]
  | checkFido2Enrolled device => deviceMethod sender AuthKind.read device []

/-! ## The state of the gate

The cache of authorizations with the clock, and three things that the service does not keep: what
polkit has approved, when somebody was last let past by ownership, and which bodies were entered.
-/

/-- `AUTH_CACHE_TTL` and `MANAGE_AUTH_CACHE_TTL`, in nanoseconds. -/
def authCacheTtl : AuthKind → ℕ
  | AuthKind.read => 30 * 1000000000
  | AuthKind.manage => 300 * 1000000000

/-- The clock and the two authorization caches.

The rest are ghosts: whom polkit has approved, when a sender was last admitted by ownership, and
which bodies have started. -/
structure Gatekeeper where
  now : ℕ
  auth : AuthKind → String → Option ℕ
  approved : AuthKind → String → Bool
  skipped : AuthKind → String → Option ℕ
  entered : ℕ → Bool

/-- The service just started. -/
def Gatekeeper.start : Gatekeeper where
  now := 0
  auth := fun _ _ => none
  approved := fun _ _ => false
  skipped := fun _ _ => none
  entered := fun _ => false

/-- What stays the same during a run: the file system, and the user behind each bus name. -/
structure Host where
  fs : FileSystem
  uid : String → ℕ

/-- What a call leaves open: the time it takes, and whether the bus knows the user, or polkit
approves. -/
structure GateInput where
  elapsed : ℕ
  granted : Bool

/-- The value at one kind and one sender replaced. -/
def setAt {α : Type} (f : AuthKind → String → α) (kind : AuthKind) (sender : String) (a : α) :
    AuthKind → String → α :=
  Function.update f kind (Function.update (f kind) sender a)

@[simp] lemma setAt_apply {α : Type} (f : AuthKind → String → α) (kind kind' : AuthKind)
    (sender sender' : String) (a : α) : setAt f kind sender a kind' sender'
      = if kind' = kind ∧ sender' = sender then a else f kind' sender' := by
  by_cases hkind : kind' = kind
  · subst hkind
    by_cases hsender : sender' = sender
    · simp [setAt, hsender]
    · simp [setAt, hsender]
  · simp [setAt, hkind]

/-- The answer to a command of request `i`. -/
def Host.answer (host : Host) (i : ℕ) :
    (c : GateCmd) → GateInput → Gatekeeper → GateReply c × Gatekeeper
  | GateCmd.authCached kind sender, _, g =>
      (match g.auth kind sender with
        | some t => decide (g.now - t < authCacheTtl kind)
        | none => false, g)
  | GateCmd.callerUid sender, o, g => (if o.granted then some (host.uid sender) else none, g)
  | GateCmd.canonicalize path, _, g => (host.fs.canonicalize path, g)
  | GateCmd.metadata path, _, g =>
      ((host.fs.node path).map fun n => (host.fs.kind n, host.fs.uid n), g)
  | GateCmd.checkPolkit kind sender, o, g =>
      (o.granted, if o.granted then { g with approved := setAt g.approved kind sender true } else g)
  | GateCmd.recordAuth kind sender route, _, g =>
      ((), { g with
        auth := setAt g.auth kind sender (some g.now)
        skipped := match route with
          | Route.ownership => setAt g.skipped kind sender (some g.now)
          | Route.polkit => g.skipped })
  | GateCmd.resetIdle, _, g => ((), g)
  | GateCmd.enter, _, g => ((), { g with entered := Function.update g.entered i true })

/-- Time passes, then the command is answered. -/
def Host.exec (host : Host) (i : ℕ) : Handler GateCmd GateReply GateInput Gatekeeper :=
  fun c o g => host.answer i c o { g with now := g.now + o.elapsed }

/-! ## Requests

Methods with their senders, what justifies one, and the condition under which an entry of the cache
is as good as what it stands for.
-/

/-- A method call and its sender's bus name. -/
structure MethodCall where
  sender : String
  method : Method

/-- The action that polkit is asked about. -/
def Method.kind : Method → AuthKind
  | detectDevices => AuthKind.read
  | getKeyslots _ => AuthKind.read
  | getTokensByType _ _ => AuthKind.read
  | findPasswordKeyslots _ => AuthKind.read
  | isVolumeKeyCached _ => AuthKind.read
  | detectRemovableDevices => AuthKind.read
  | getDeviceInfo _ => AuthKind.read
  | getSetting _ => AuthKind.read
  | checkFido2Enrolled _ => AuthKind.read
  | _ => AuthKind.manage

/-- The path that a method operates on, and whether it is about to create it. -/
def Method.operand : Method → Option (String × Bool)
  | verifyPassphrase device _ => some (device, false)
  | unlockWithToken device _ _ => some (device, false)
  | openVolume device _ _ _ _ => some (device, false)
  | enrollFido2 device _ _ _ _ _ => some (device, false)
  | enrollTpm2 device _ _ _ _ _ => some (device, false)
  | enrollRecoveryKey device _ _ _ => some (device, false)
  | enrollPassphrase device _ _ _ _ => some (device, false)
  | wipeSlot device _ _ _ => some (device, false)
  | createEncryptedImage path _ => some (path, true)
  | formatPartition device _ => some (device, false)
  | getKeyslots device => some (device, false)
  | getTokensByType device _ => some (device, false)
  | findPasswordKeyslots device => some (device, false)
  | isVolumeKeyCached device => some (device, false)
  | getDeviceInfo device => some (device, false)
  | checkFido2Enrolled device => some (device, false)
  | closeVolume _ => none
  | setSetting _ _ => none
  | authenticate => none
  | detectDevices => none
  | detectRemovableDevices => none
  | getSetting _ => none

namespace Host

variable (host : Host)

/-- The sender's user owns the resolved file at a path; for a new image, the directory it goes to. -/
def OwnsPath (sender path : String) (createImage : Bool) : Prop :=
  ∃ target n, ownershipTarget createImage (host.fs.realpath path) = some target
    ∧ host.fs.node target = some n ∧ host.fs.kind n = ownedKind createImage
    ∧ host.fs.uid n = host.uid sender

/-- The sender owns the operand of this very request. -/
def OwnsOperand (r : MethodCall) : Prop :=
  ∃ path createImage, r.method.operand = some (path, createImage)
    ∧ host.OwnsPath r.sender path createImage

/-- What the body of a Manage method needs: polkit's approval of the sender, or its own operand. -/
def Justified (r : MethodCall) (g : Gatekeeper) : Prop :=
  g.approved AuthKind.manage r.sender = true ∨ host.OwnsOperand r

/-- Every body of a Manage method that has started was justified. -/
def BodiesJustified (reqs : ℕ → MethodCall) (g : Gatekeeper) : Prop :=
  ∀ i, g.entered i = true → (reqs i).method.kind = AuthKind.manage → host.Justified (reqs i) g

/-- **The condition on a step**: a Manage request finds the cache within the lifetime of an admission
by ownership only if it is justified without it. -/
def CacheNotBorrowed (reqs : ℕ → MethodCall) (i : ℕ) (c : GateCmd) (o : GateInput)
    (g : Gatekeeper) : Prop :=
  ∀ t, c = GateCmd.authCached AuthKind.manage (reqs i).sender →
    g.skipped AuthKind.manage (reqs i).sender = some t →
    g.now + o.elapsed - t < authCacheTtl AuthKind.manage → host.Justified (reqs i) g

end Host

/-- All requests that will ever come, before any has started. -/
def Calls (reqs : ℕ → MethodCall) : Pool ℕ GateCmd GateReply SvcError Unit Gatekeeper where
  threads := fun i => (reqs i).method.handle (reqs i).sender
  state := Gatekeeper.start

/-! ## What the gate keeps

The gate's functions under the invariant, each with what it gives to what comes after it.  Other
requests may go on at every command.
-/

section Keeps

variable {host : Host} {reqs : ℕ → MethodCall} {i : ℕ} {g g' : Gatekeeper} {α : Type}

/-- The invariant: bodies were justified, and an entry of the Manage cache is polkit's or that of
the last admission by ownership. -/
structure Gatekeeper.Sound (host : Host) (reqs : ℕ → MethodCall) (g : Gatekeeper) : Prop where
  bodies : host.BodiesJustified reqs g
  entries : ∀ sender t, g.auth AuthKind.manage sender = some t →
    g.approved AuthKind.manage sender = true ∨ g.skipped AuthKind.manage sender = some t

/-- What requests do to each other: approvals stay. -/
def Gatekeeper.Grows (g g' : Gatekeeper) : Prop :=
  ∀ sender, g.approved AuthKind.manage sender = true → g'.approved AuthKind.manage sender = true

lemma Gatekeeper.Grows.refl (g : Gatekeeper) : g.Grows g := fun _ h => h

lemma Gatekeeper.Grows.trans (g₁ g₂ g₃ : Gatekeeper) (h : g₁.Grows g₂) (h' : g₂.Grows g₃) :
    g₁.Grows g₃ := fun sender hs => h' sender (h sender hs)

/-- What was justified stays justified as approvals are added. -/
lemma Host.Justified.grows {r : MethodCall} (hj : host.Justified r g) (hg : g.Grows g') :
    host.Justified r g' := hj.imp_left (hg r.sender)

/-- A request's part of the argument: under the condition it keeps the invariant, whatever the others
do in the meantime, and ends in `Q`. -/
abbrev Host.Runs (host : Host) (reqs : ℕ → MethodCall) (i : ℕ)
    (Q : Except SvcError α → Gatekeeper → Prop) (p : GateOp α) (g : Gatekeeper) : Prop :=
  p.Within (host.exec i) (Gatekeeper.Sound host reqs) Gatekeeper.Grows
    (host.CacheNotBorrowed reqs i) Q g

/-- Commands that only look. -/
def GateCmd.Looks : GateCmd → Prop
  | GateCmd.callerUid _ => True
  | GateCmd.canonicalize _ => True
  | GateCmd.metadata _ => True
  | GateCmd.resetIdle => True
  | _ => False

lemma exec_looks {c : GateCmd} (hc : c.Looks) (o : GateInput) (g : Gatekeeper) :
    (host.exec i c o g).2 = { g with now := g.now + o.elapsed } := by
  cases c with
  | callerUid sender => rfl
  | canonicalize path => rfl
  | metadata path => rfl
  | resetIdle => rfl
  | _ => exact hc.elim

/-- Time passing does no harm to the invariant. -/
lemma Gatekeeper.Sound.later (hs : g.Sound host reqs) (n : ℕ) :
    Gatekeeper.Sound host reqs { g with now := n } := ⟨hs.bodies, hs.entries⟩

variable {Q : Except SvcError α → Gatekeeper → Prop}

/-- A command that looks, before the rest of the request. -/
lemma runs_pose {c : GateCmd} (hc : c.Looks) {f : GateReply c → GateOp α}
    (hf : ∀ o g₀ g₁, g.Grows g₁ → host.Runs reqs i Q (f (host.exec i c o g₀).1) g₁) :
    host.Runs reqs i Q ((pose c).bind f) g := by
  intro g' hg hs o _
  refine ⟨by rw [exec_looks hc]; exact hs.later _, ?_, hf o g' _ ?_⟩
  · rw [exec_looks hc]
    exact Gatekeeper.Grows.refl _
  · rw [exec_looks hc]
    exact hg

/-- Resolving a path answers what the file system has. -/
lemma runs_canonicalize {path : String} {f : Option String → GateOp α}
    (hf : ∀ g₁, g.Grows g₁ → host.Runs reqs i Q (f (host.fs.canonicalize path)) g₁) :
    host.Runs reqs i Q ((pose (GateCmd.canonicalize path)).bind f) g :=
  runs_pose (c := GateCmd.canonicalize path) trivial fun _ _ g₁ hg => hf g₁ hg

lemma runs_metadata {path : String} {f : Option (FileKind × ℕ) → GateOp α}
    (hf : ∀ g₁, g.Grows g₁ → host.Runs reqs i Q
      (f ((host.fs.node path).map fun n => (host.fs.kind n, host.fs.uid n))) g₁) :
    host.Runs reqs i Q ((pose (GateCmd.metadata path)).bind f) g :=
  runs_pose (c := GateCmd.metadata path) trivial fun _ _ g₁ hg => hf g₁ hg

/-- The bus may not know the user of a sender; if it does, it is the one. -/
lemma runs_callerUid {sender : String} {f : Option ℕ → GateOp α}
    (hnone : ∀ g₁, g.Grows g₁ → host.Runs reqs i Q (f none) g₁)
    (hsome : ∀ g₁, g.Grows g₁ → host.Runs reqs i Q (f (some (host.uid sender))) g₁) :
    host.Runs reqs i Q ((pose (GateCmd.callerUid sender)).bind f) g := by
  refine runs_pose (c := GateCmd.callerUid sender) trivial fun o g₀ g₁ hg => ?_
  show host.Runs reqs i Q (f (if o.granted = true then some (host.uid sender) else none)) g₁
  split_ifs
  · exact hsome g₁ hg
  · exact hnone g₁ hg

/-- The path that a request works on is the one the file system resolves to. -/
lemma runs_realpath (path : String) :
    host.Runs reqs i (fun x _ => x = Except.ok (host.fs.realpath path)) (realpath path) g := by
  refine runs_canonicalize fun g₁ _ => ?_
  cases hpath : host.fs.canonicalize path with
  | some p => exact fun _ _ => by simp [FileSystem.realpath, hpath]
  | none =>
      cases hparent : pathParent path with
      | none => exact fun _ _ => by simp [FileSystem.realpath, hpath, hparent]
      | some parent =>
          cases hname : pathFileName path with
          | none => exact fun _ _ => by simp [FileSystem.realpath, hpath, hparent, hname]
          | some name =>
              refine runs_canonicalize fun g₂ _ => ?_
              cases hrp : host.fs.canonicalize parent with
              | some rp =>
                  exact fun _ _ => by simp [FileSystem.realpath, hpath, hparent, hname, hrp]
              | none =>
                  exact fun _ _ => by simp [FileSystem.realpath, hpath, hparent, hname, hrp]

/-- Polkit is skipped only for a path that the sender owns. -/
lemma runs_ownershipSkip (sender : String) (ownedPath : Option String) (createImage : Bool) :
    host.Runs reqs i (fun x _ => x = Except.ok true →
      ∃ path, ownedPath = some path ∧ host.OwnsPath sender path createImage)
      (ownershipSkip sender ownedPath createImage) g := by
  cases ownedPath with
  | none => exact fun _ _ h => by cases h
  | some arg0 =>
      refine runs_callerUid (fun _ _ _ _ h => by cases h) fun g₁ _ => ?_
      refine Within.bind Gatekeeper.Grows.refl (Within.mono (fun x g₂ hx => ?_) (runs_realpath arg0))
      rw [hx]
      cases htarget : ownershipTarget createImage (host.fs.realpath arg0) with
      | none => simp only [htarget]; exact fun _ _ h => by cases h
      | some target =>
          simp only [htarget]
          refine runs_metadata fun g₃ _ => ?_
          cases hnode : host.fs.node target with
          | none => exact fun _ _ h => by cases h
          | some n =>
              intro g₄ _ h
              obtain ⟨hkind, huid⟩ := of_decide_eq_true (Except.ok.inj h)
              exact ⟨arg0, rfl, target, n, htarget, hnode, hkind, huid⟩

/-- What passing the gate gives the request: if it is a Manage request, justification. -/
def Host.Passed (host : Host) (r : MethodCall) (x : Except SvcError α) (g : Gatekeeper) : Prop :=
  ∀ a, x = Except.ok a → r.method.kind = AuthKind.manage → host.Justified r g

lemma runs_resetIdle (hj : (reqs i).method.kind = AuthKind.manage → host.Justified (reqs i) g) :
    host.Runs reqs i (host.Passed (reqs i)) (pose GateCmd.resetIdle) g := by
  intro g' hg hs o _
  refine ⟨hs.later _, Gatekeeper.Grows.refl _, fun g'' hg' _ _ hkind => ?_⟩
  exact (hj hkind).grows fun sender h => hg' sender (hg sender h)

/-- An entry of the Manage cache is a justification, unless it is borrowed. -/
lemma justified_of_cached (hs : g.Sound host reqs) {o : GateInput}
    (hadm : host.CacheNotBorrowed reqs i (GateCmd.authCached AuthKind.manage (reqs i).sender) o g)
    (hcached : (host.exec i (GateCmd.authCached AuthKind.manage (reqs i).sender) o g).1 = true) :
    host.Justified (reqs i) g := by
  change (match g.auth AuthKind.manage (reqs i).sender with
    | some t => decide (g.now + o.elapsed - t < authCacheTtl AuthKind.manage)
    | none => false) = true at hcached
  cases hentry : g.auth AuthKind.manage (reqs i).sender with
  | none => simp [hentry] at hcached
  | some t =>
      simp only [hentry, decide_eq_true_eq] at hcached
      rcases hs.entries _ t hentry with happroved | hskipped
      · exact Or.inl happroved
      · exact hadm t rfl hskipped hcached

/-- An admission by ownership is recorded as one. -/
lemma Gatekeeper.Sound.recordOwnership (hs : g.Sound host reqs) (kind : AuthKind) (sender : String)
    (o : GateInput) :
    (host.exec i (GateCmd.recordAuth kind sender Route.ownership) o g).2.Sound host reqs where
  bodies := hs.bodies
  entries := fun sender' t ht => by
    simp only [Host.exec, Host.answer, setAt_apply] at ht ⊢
    split_ifs at ht ⊢ with hhere
    · exact Or.inr ht
    · exact hs.entries sender' t ht

/-- An admission by polkit is recorded with an approval. -/
lemma Gatekeeper.Sound.recordPolkit (hs : g.Sound host reqs) {kind : AuthKind} {sender : String}
    (happroved : kind = AuthKind.manage → g.approved AuthKind.manage sender = true)
    (o : GateInput) :
    (host.exec i (GateCmd.recordAuth kind sender Route.polkit) o g).2.Sound host reqs where
  bodies := hs.bodies
  entries := fun sender' t ht => by
    simp only [Host.exec, Host.answer, setAt_apply] at ht ⊢
    split_ifs at ht with hhere
    · exact Or.inl (hhere.2 ▸ happroved hhere.1.symm)
    · exact hs.entries sender' t ht

/-- An approval by polkit: it stays sound, and grows. -/
lemma Gatekeeper.Sound.approve (hs : g.Sound host reqs) (kind : AuthKind) (sender : String)
    (o : GateInput) :
    (host.exec i (GateCmd.checkPolkit kind sender) o g).2.Sound host reqs
      ∧ g.Grows (host.exec i (GateCmd.checkPolkit kind sender) o g).2 := by
  have hgrows : g.Grows (host.exec i (GateCmd.checkPolkit kind sender) o g).2 := by
    intro sender' h
    simp only [Host.exec, Host.answer]
    split_ifs
    · simp [h]
    · exact h
  refine ⟨⟨fun j hj hkind => ?_, fun sender' t ht => ?_⟩, hgrows⟩
  · refine (hs.bodies j ?_ hkind).grows hgrows
    simp only [Host.exec, Host.answer] at hj
    split_ifs at hj <;> exact hj
  · have ht' : g.auth AuthKind.manage sender' = some t := by
      simp only [Host.exec, Host.answer] at ht
      split_ifs at ht <;> exact ht
    refine (hs.entries sender' t ht').imp (hgrows sender') fun hskipped => ?_
    simp only [Host.exec, Host.answer]
    split_ifs <;> exact hskipped

/-- **The gate**: under the condition, a Manage request that passes is justified. -/
lemma runs_gate {ownedPath : Option String} {createImage : Bool}
    (hoperand : ∀ path, ownedPath = some path →
      (reqs i).method.operand = some (path, createImage)) :
    host.Runs reqs i (host.Passed (reqs i))
      (gate (reqs i).sender (reqs i).method.kind ownedPath createImage) g := by
  intro g' hg hs o hadm
  refine ⟨hs.later _, Gatekeeper.Grows.refl _, ?_⟩
  show host.Runs reqs i _ (if (host.exec i (GateCmd.authCached (reqs i).method.kind
    (reqs i).sender) o g').1 = true then _ else _ : GateOp Unit) _
  split_ifs with hcached
  · -- from the cache
    refine runs_resetIdle fun hkind => ?_
    rw [hkind] at hcached hadm
    have hj := justified_of_cached hs hadm hcached
    exact hj
  · refine Within.bind Gatekeeper.Grows.refl (Within.mono (fun x g₁ hx => ?_)
      (runs_ownershipSkip (reqs i).sender ownedPath createImage))
    cases x with
    | error e => exact fun _ h => by cases h
    | ok skip =>
        cases skip with
        | true =>
            -- by ownership
            obtain ⟨path, hpath, howns⟩ := hx rfl
            intro g₂ _ hs₂ o₂ _
            refine ⟨hs₂.recordOwnership _ _ o₂, Gatekeeper.Grows.refl _, runs_resetIdle fun _ => ?_⟩
            exact Or.inr ⟨path, createImage, hoperand path hpath, howns⟩
        | false =>
            -- by polkit
            intro g₂ _ hs₂ o₂ _
            obtain ⟨hs₃, hgrows⟩ := hs₂.approve (reqs i).method.kind (reqs i).sender o₂
            refine ⟨hs₃, hgrows, ?_⟩
            show host.Runs reqs i _ (if o₂.granted = true then _ else _ : GateOp Unit) _
            split_ifs with hgranted
            · have happroved : (host.exec i (GateCmd.checkPolkit (reqs i).method.kind
                  (reqs i).sender) o₂ g₂).2.approved (reqs i).method.kind (reqs i).sender
                    = true := by
                simp [Host.exec, Host.answer, hgranted]
              intro g₃ hg₃ hs₃ o₃ _
              have hmanage : (reqs i).method.kind = AuthKind.manage →
                  g₃.approved AuthKind.manage (reqs i).sender = true := by
                intro hkind
                rw [hkind] at happroved hg₃
                exact hg₃ _ happroved
              exact ⟨hs₃.recordPolkit hmanage o₃, Gatekeeper.Grows.refl _,
                runs_resetIdle fun hkind => Or.inl (hmanage hkind)⟩
            · exact fun _ _ _ h => by cases h

/-- The commands that follow the gate. -/
def GateCmd.Follows (c : GateCmd) : Prop := c.Looks ∨ c = GateCmd.enter

/-- What follows the gate, up to the start of the body, of a request that is justified. -/
lemma runs_follows {p : GateOp α} (hp : p.AllCalls GateCmd.Follows)
    (hj : (reqs i).method.kind = AuthKind.manage → host.Justified (reqs i) g) :
    host.Runs reqs i (host.Passed (reqs i)) p g := by
  induction p generalizing g with
  | ret a => exact fun g' hg _ _ hkind => (hj hkind).grows hg
  | fail e => exact fun g' hg _ h => by cases h
  | call c k ih =>
      intro g' hg hs o _
      have hj' : (reqs i).method.kind = AuthKind.manage → host.Justified (reqs i) g' :=
        fun hkind => (hj hkind).grows hg
      rcases hp.1 with hlooks | rfl
      · rw [exec_looks hlooks]
        exact ⟨hs.later _, Gatekeeper.Grows.refl _, ih _ (hp.2 _) hj'⟩
      · refine ⟨⟨fun j hj hkind => ?_, hs.entries⟩, Gatekeeper.Grows.refl _, ih _ (hp.2 _) hj'⟩
        by_cases hij : j = i
        · subst hij
          exact hj' hkind
        · refine hs.bodies j ?_ hkind
          simpa [Host.exec, Host.answer, Function.update_of_ne hij] using hj

/-- The commands between the gate and the body. -/
def GateCmd.AfterGate : GateCmd → Prop
  | GateCmd.callerUid _ => True
  | GateCmd.canonicalize _ => True
  | GateCmd.metadata _ => True
  | GateCmd.enter => True
  | _ => False

lemma GateCmd.AfterGate.follows {c : GateCmd} (hc : c.AfterGate) : c.Follows := by
  cases c with
  | callerUid sender => exact Or.inl trivial
  | canonicalize path => exact Or.inl trivial
  | metadata path => exact Or.inl trivial
  | enter => exact Or.inr rfl
  | _ => exact hc.elim

lemma realpath_afterGate (path : String) : (realpath path).AllCalls GateCmd.AfterGate := by
  refine AllCalls.bind ⟨trivial, fun _ => trivial⟩ fun real => ?_
  cases real with
  | some p => trivial
  | none =>
      cases pathParent path with
      | none => trivial
      | some parent =>
          cases pathFileName path with
          | none => trivial
          | some name =>
              refine AllCalls.bind ⟨trivial, fun _ => trivial⟩ fun rp => ?_
              cases rp <;> trivial

lemma validateDevice_afterGate (path : String) :
    (validateDevice path).AllCalls GateCmd.AfterGate := by
  refine AllCalls.bind (realpath_afterGate path) fun real => ?_
  refine AllCalls.bind ⟨trivial, fun _ => trivial⟩ fun md => ?_
  split <;> trivial

lemma checkLens_afterGate (args : List String) : (checkLens args).AllCalls GateCmd.AfterGate := by
  rw [checkLens]
  split_ifs <;> trivial

lemma enter_afterGate : (pose GateCmd.enter).AllCalls GateCmd.AfterGate :=
  ⟨trivial, fun _ => trivial⟩

/-- The gate on a device, and what follows it. -/
lemma gateDevice_bind {β : Type} {sender device : String} {kind : AuthKind} {extra : List String}
    {f : String → GateOp β} (hf : ∀ d, (f d).AllCalls GateCmd.AfterGate) :
    ∃ rest : Unit → GateOp β, (gateDevice sender kind device extra).bind f
        = (gate sender kind (some device) false).bind rest
      ∧ ∀ u, (rest u).AllCalls GateCmd.AfterGate := by
  rw [gateDevice, Prog.bind_def, Prog.bind_assoc]
  refine ⟨_, rfl, fun _ => ?_⟩
  exact AllCalls.bind (AllCalls.bind (validateDevice_afterGate _) fun d =>
    AllCalls.bind (checkLens_afterGate _) fun _ => trivial) hf

/-- **Every method passes the gate first**, asking for its own action and naming its own operand. -/
lemma Method.handle_gated (m : Method) (sender : String) :
    ∃ ownedPath createImage, ∃ rest : Unit → GateOp Unit,
      m.handle sender = (gate sender m.kind ownedPath createImage).bind rest
      ∧ (∀ u, (rest u).AllCalls GateCmd.AfterGate)
      ∧ ∀ path, ownedPath = some path → m.operand = some (path, createImage) := by
  have hdevice : ∀ {kind : AuthKind} {device : String} {f : String → GateOp Unit}
      {extra : List String}, m.kind = kind → m.operand = some (device, false) →
      m.handle sender = (gateDevice sender kind device extra).bind f →
      (∀ d, (f d).AllCalls GateCmd.AfterGate) → ∃ ownedPath createImage,
        ∃ rest : Unit → GateOp Unit,
        m.handle sender = (gate sender m.kind ownedPath createImage).bind rest
        ∧ (∀ u, (rest u).AllCalls GateCmd.AfterGate)
        ∧ ∀ path, ownedPath = some path → m.operand = some (path, createImage) := by
    intro kind device f extra hkind hoperand heq hf
    obtain ⟨rest, hrest, hafter⟩ := @gateDevice_bind _ sender device kind extra f hf
    refine ⟨some device, false, rest, by rw [heq, hrest, hkind], hafter, fun path hpath => ?_⟩
    rw [hoperand, Option.some.inj hpath]
  have hplain : ∀ {kind : AuthKind} {args : List String}, m.kind = kind →
      m.handle sender = plainMethod sender kind args → ∃ ownedPath createImage,
        ∃ rest : Unit → GateOp Unit,
        m.handle sender = (gate sender m.kind ownedPath createImage).bind rest
        ∧ (∀ u, (rest u).AllCalls GateCmd.AfterGate)
        ∧ ∀ path, ownedPath = some path → m.operand = some (path, createImage) := by
    intro kind args hkind heq
    refine ⟨none, false, _, by rw [heq, hkind]; rfl, fun _ => ?_, fun path hpath => by cases hpath⟩
    exact AllCalls.bind (checkLens_afterGate args) fun _ => enter_afterGate
  cases m with
  | unlockWithToken device tokenType pin =>
      refine hdevice rfl rfl rfl fun _ => ?_
      split_ifs
      · trivial
      · exact enter_afterGate
  | createEncryptedImage path passphrase =>
      refine ⟨some path, true, _, rfl, fun _ => ?_, fun p hp => by cases hp; rfl⟩
      exact AllCalls.bind (realpath_afterGate path) fun _ =>
        AllCalls.bind (checkLens_afterGate _) fun _ =>
          AllCalls.bind ⟨trivial, fun _ => trivial⟩ fun _ => enter_afterGate
  | closeVolume name => exact hplain rfl rfl
  | setSetting key value => exact hplain rfl rfl
  | authenticate => exact hplain rfl rfl
  | detectDevices => exact hplain rfl rfl
  | detectRemovableDevices => exact hplain rfl rfl
  | getSetting key => exact hplain rfl rfl
  | _ => exact hdevice rfl rfl rfl fun _ => enter_afterGate

/-- The gate, and anything that may follow it. -/
lemma runs_gated {ownedPath : Option String} {createImage : Bool} {f : Unit → GateOp α}
    (hoperand : ∀ path, ownedPath = some path →
      (reqs i).method.operand = some (path, createImage))
    (hf : ∀ u, (f u).AllCalls GateCmd.Follows) :
    host.Runs reqs i (host.Passed (reqs i))
      ((gate (reqs i).sender (reqs i).method.kind ownedPath createImage).bind f) g := by
  refine Within.bind Gatekeeper.Grows.refl (Within.mono (fun x g₁ hx => ?_) (runs_gate hoperand))
  cases x with
  | error e => exact fun _ h => by cases h
  | ok u => exact runs_follows (hf u) (hx u rfl)

/-- **Every method** keeps the invariant. -/
lemma runs_handle (host : Host) (reqs : ℕ → MethodCall) (i : ℕ) (g : Gatekeeper) :
    host.Runs reqs i (host.Passed (reqs i)) ((reqs i).method.handle (reqs i).sender) g := by
  obtain ⟨ownedPath, createImage, rest, heq, hrest, hoperand⟩ :=
    (reqs i).method.handle_gated (reqs i).sender
  rw [heq]
  exact runs_gated hoperand fun u => (hrest u).mono fun _ => GateCmd.AfterGate.follows

end Keeps

/-! ## Whole runs

The requests as threads, and the two runs: one where the entry was borrowed, and one within the
condition.
-/

/-- **Bodies of Manage methods run only with polkit's approval or on an operand the sender owns**, in
every run, of any requests by any senders in any order, in which no request borrows an admission by
ownership that would not have admitted it too. -/
theorem manage_bodies_justified (host : Host) (reqs : ℕ → MethodCall)
    {sched : List (ℕ × GateInput)}
    (hsched : (Calls reqs).Along host.exec (Pool.Issuing (host.CacheNotBorrowed reqs)) sched) :
    host.BodiesJustified reqs ((Calls reqs).run host.exec sched).state := by
  have hstart : (Calls reqs).state.Sound host reqs :=
    ⟨fun i h _ => absurd h (by simp [Calls, Gatekeeper.start]), fun sender t h => by cases h⟩
  exact (Pool.run_rely host.exec Gatekeeper.Grows.refl Gatekeeper.Grows.trans
    (fun i => runs_handle host reqs i _) hstart hsched).bodies

/-- User 1000, known to the bus as `:1.7`, has an image file of their own. -/
def imageOwner : Host where
  fs := FileSystem.ofList [("/home/u/vault.img", FileKind.regular, 1000)] []
  uid := fun _ => 1000

/-- They verify a passphrase on it, and then close a mapping. -/
def borrowedCalls (i : ℕ) : MethodCall where
  sender := ":1.7"
  method := if i = 0 then Method.verifyPassphrase "/home/u/vault.img" "secret"
    else Method.closeVolume "backup"

/-- The first request to its end, then the second. -/
def closingRun : List (ℕ × GateInput) :=
  List.replicate 9 (0, ⟨1, true⟩) ++ List.replicate 3 (1, ⟨1, true⟩)

/-- A schedule of requests that are all on operands of their senders. -/
lemma along_of_ownsOperand {host : Host} {reqs : ℕ → MethodCall} {sched : List (ℕ × GateInput)}
    (howns : ∀ x ∈ sched, host.OwnsOperand (reqs x.1))
    (p : Pool ℕ GateCmd GateReply SvcError Unit Gatekeeper) :
    p.Along host.exec (Pool.Issuing (host.CacheNotBorrowed reqs)) sched := by
  induction sched generalizing p with
  | nil => trivial
  | cons x sched ih =>
      refine ⟨fun _ _ _ _ _ _ _ => Or.inr (howns x (List.mem_cons_self ..)), ih ?_ _⟩
      exact fun y hy => howns y (List.mem_cons_of_mem _ hy)

/-- A passphrase verified on the sender's own file. -/
theorem own_file_verified :
    ((Calls borrowedCalls).run imageOwner.exec (List.replicate 9 (0, ⟨1, true⟩))).state.entered 0
        = true
      ∧ imageOwner.BodiesJustified borrowedCalls
        ((Calls borrowedCalls).run imageOwner.exec (List.replicate 9 (0, ⟨1, true⟩))).state := by
  have howns : imageOwner.OwnsOperand (borrowedCalls 0) :=
    ⟨"/home/u/vault.img", false, rfl, "/home/u/vault.img", 0, by decide +kernel⟩
  refine ⟨by decide +kernel, manage_bodies_justified _ _ (along_of_ownsOperand ?_ _)⟩
  intro x hx
  rw [List.eq_of_mem_replicate hx]
  exact howns

/-- **Closed on the strength of a file**: the body of `CloseVolume` starts, polkit was never asked,
and there is no operand to own. -/
theorem closed_on_the_strength_of_a_file :
    ((Calls borrowedCalls).run imageOwner.exec closingRun).state.entered 1 = true
      ∧ ¬ imageOwner.BodiesJustified borrowedCalls
        ((Calls borrowedCalls).run imageOwner.exec closingRun).state := by
  have hentered : ((Calls borrowedCalls).run imageOwner.exec closingRun).state.entered 1 = true := by
    decide +kernel
  refine ⟨hentered, fun hjustified => ?_⟩
  rcases hjustified 1 hentered rfl with happroved | ⟨path, createImage, hoperand, -⟩
  · exact absurd happroved (by decide +kernel)
  · cases hoperand

end LuksEnroll
