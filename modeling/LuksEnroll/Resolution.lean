import LuksEnroll.Admission

/-!
# A path resolved more than once

A request that is admitted by ownership names a file.  The gate resolves the path and looks at the
owner of what it finds; `validate_device` resolves the path again, and every session that the
operation opens on the result follows that path once more.  Nothing ties these looks together.

The sender may change the directories it can write at any moment, so it may show the gate a file of
its own and the operation something else: `root_device_opened`.  What is opened is what was looked at
as long as the path stays what it is until the request has passed, and what stands at its resolution until
it is opened for the last time (`opens_what_was_checked`).

The file system is an input of every step (`Turn`), so that anybody may change anything between two
commands; `SameDevice` is the one thing that is asked of the changes.  The proof follows the request
through its commands, as they come, with `LeftAlone`: whatever the resolution is asked for, it gives the
same, and the look at the owner is a look at the object that is opened later.
-/

namespace LuksEnroll

open Library

/-! ## Looking and opening

Every call of an admission sees a file system of its own, and the descriptor is opened last.  The
condition says which of these file systems have to agree, and about which path.
-/

/-- The gate during one request.  `looked` is the file system at the last look at a file's owner, and
`checked` the one in which the request passed by ownership; both are ghosts. -/
structure Scene where
  gate : Gatekeeper
  looked : Option FileSystem
  checked : Option FileSystem

/-- A command of the request, in the file system as the sender has left it by then. -/
def sceneExec (uid : String → ℕ) : Handler GateCmd GateReply Turn Scene := fun c o s =>
  ((gateExec uid 0 c o s.gate).1, {
    gate := (gateExec uid 0 c o s.gate).2
    looked := match c with
      | GateCmd.metadata _ => some o.fs
      | _ => s.looked
    checked := match c with
      | GateCmd.recordAuth _ _ Route.ownership => s.looked
      | _ => s.checked })

/-- A request on a device, up to the path that the operation is given. -/
def admission (uid : String → ℕ) (sender : String) (kind : AuthKind) (device : String)
    (extra : List String) (turns : ℕ → Turn) (g : Gatekeeper) : Except SvcError String × Scene :=
  (gateDevice sender kind device extra).run (sceneExec uid) turns ⟨g, none, none⟩

/-- The device path leads to the same place in both: it resolves alike, and the same object stands
there. -/
structure SameDevice (device : String) (fs fs' : FileSystem) : Prop where
  canonicalize : fs'.canonicalize device = fs.canonicalize device
  /-- A path that does not resolve is read as a name in its directory, so the directory resolves alike. -/
  parent : fs.canonicalize device = none → ∀ parent, pathParent device = some parent →
    fs'.canonicalize parent = fs.canonicalize parent
  node : fs'.node (fs.realpath device) = fs.node (fs.realpath device)

section

variable {uid : String → ℕ} {sender device : String} {kind : AuthKind} {fs : FileSystem} {α : Type}
  {s : Scene}

/-- On these inputs, in any order of events, the request ends in `Q`. -/
abbrev LeftAlone (uid : String → ℕ) (device : String) (fs : FileSystem)
    (Q : Except SvcError α → Scene → Prop) (p : GateOp α) (s : Scene) : Prop :=
  p.wp (sceneExec uid) (fun o => SameDevice device fs o.fs) Q s

lemma leftAlone_canonicalize {Q : Except SvcError α → Scene → Prop} {path : String}
    {f : Option String → GateOp α} {found : Option String}
    (hpath : ∀ o : Turn, SameDevice device fs o.fs → o.fs.canonicalize path = found)
    (hf : ∀ s', s'.looked = s.looked → s'.checked = s.checked → LeftAlone uid device fs Q (f found) s') :
    LeftAlone uid device fs Q ((pose (GateCmd.canonicalize path)).bind f) s := by
  intro o ho
  have hfound := hpath o ho
  subst hfound
  exact hf _ rfl rfl

lemma leftAlone_metadata {Q : Except SvcError α → Scene → Prop}
    {f : Option (FileKind × ℕ) → GateOp α}
    (hf : ∀ (fs' : FileSystem) (s' : Scene), s'.looked = some fs' → s'.checked = s.checked →
      LeftAlone uid device fs Q
        (f ((fs.node (fs.realpath device)).map fun n => (fs'.kind n, fs'.uid n))) s') :
    LeftAlone uid device fs Q ((pose (GateCmd.metadata (fs.realpath device))).bind f) s := by
  intro o ho
  have hnext := hf o.fs (sceneExec uid (GateCmd.metadata (fs.realpath device)) o s).2 rfl rfl
  rw [← ho.node] at hnext
  exact hnext

/-- However often it is resolved, the path gives the same. -/
lemma realpath_same :
    LeftAlone uid device fs (fun x s' => x = Except.ok (fs.realpath device) ∧
      s'.checked = s.checked) (realpath device) s := by
  refine leftAlone_canonicalize (fun o ho => ho.canonicalize) fun s₁ _ hs₁ => ?_
  cases hdevice : fs.canonicalize device with
  | some p => exact ⟨by simp [FileSystem.realpath, hdevice], hs₁⟩
  | none =>
      cases hparent : pathParent device with
      | none => exact ⟨by simp [FileSystem.realpath, hdevice, hparent], hs₁⟩
      | some parent =>
          cases hname : pathFileName device with
          | none => exact ⟨by simp [FileSystem.realpath, hdevice, hparent, hname], hs₁⟩
          | some name =>
              refine leftAlone_canonicalize (fun o ho => ho.parent hdevice parent hparent)
                fun s₂ _ hs₂ => ?_
              cases hrp : fs.canonicalize parent with
              | some rp =>
                  exact ⟨by simp [FileSystem.realpath, hdevice, hparent, hname, hrp],
                    hs₂.trans hs₁⟩
              | none =>
                  exact ⟨by simp [FileSystem.realpath, hdevice, hparent, hname, hrp],
                    hs₂.trans hs₁⟩

/-- The object at the resolved path was, in this file system, a regular file of the sender's. -/
def OwnedIn (uid : String → ℕ) (sender device : String) (fs checked : FileSystem) : Prop :=
  ∀ n, fs.node (fs.realpath device) = some n →
    checked.kind n = FileKind.regular ∧ checked.uid n = uid sender

/-- The ownership test says yes only of a file of the sender's, as it is at that moment. -/
lemma ownershipSkip_same (hs : s.checked = none) :
    LeftAlone uid device fs (fun x s' => s'.checked = none ∧ (x = Except.ok true →
      ∃ checked, s'.looked = some checked ∧ OwnedIn uid sender device fs checked))
      (ownershipSkip sender (some device) false) s := by
  intro o _
  have huser : (sceneExec uid (GateCmd.callerUid sender) o s).1 =
      if o.call.granted = true then some (uid sender) else none := rfl
  by_cases hgranted : o.call.granted = true
  · rw [if_pos hgranted] at huser
    simp only [huser]
    show Prog.wp _ _ _ ((realpath device).bind _) _
    refine Prog.wp_bind (Prog.wp_mono (fun x s₁ hx => ?_) realpath_same)
    obtain ⟨rfl, hs₁⟩ := hx
    refine leftAlone_metadata fun checked s₂ hlooked hs₂ => ?_
    have hnone : s₂.checked = none := hs₂.trans (hs₁.trans hs)
    cases hnode : fs.node (fs.realpath device) with
    | none => exact ⟨hnone, fun h => by simp at h⟩
    | some n =>
        refine ⟨hnone, fun h => ⟨checked, hlooked, fun m hm => ?_⟩⟩
        rw [hnode, Option.some.injEq] at hm
        simpa [ownedKind, hm] using h
  · rw [if_neg hgranted] at huser
    simp only [huser]
    exact ⟨hs, fun h => by simp at h⟩

/-- What the request has passed by, if by ownership. -/
def PassedOwning (uid : String → ℕ) (sender device : String) (fs : FileSystem) (s : Scene) : Prop :=
  ∀ checked, s.checked = some checked → OwnedIn uid sender device fs checked

lemma PassedOwning.of_none (hs : s.checked = none) : PassedOwning uid sender device fs s := by
  intro checked hchecked
  simp [hs] at hchecked

lemma gate_same (g : Gatekeeper) :
    LeftAlone uid device fs (fun _ s' => PassedOwning uid sender device fs s')
      (gate sender kind (some device) false) ⟨g, none, none⟩ := by
  intro o _
  show Prog.wp _ _ _ (if (gateExec uid 0 (GateCmd.authCached kind sender) o g).1 = true then _
    else _ : GateOp Unit) _
  split_ifs
  · exact fun o' _ => PassedOwning.of_none rfl
  · refine Prog.wp_bind (Prog.wp_mono (fun x s₁ hx => ?_) (ownershipSkip_same rfl))
    obtain ⟨hs₁, howned⟩ := hx
    cases x with
    | error e => exact PassedOwning.of_none hs₁
    | ok skip =>
        cases skip with
        | true =>
            obtain ⟨looked, hlooked, hown⟩ := howned rfl
            intro o₁ _ o₂ _ checked hchecked
            have heq : some looked = some checked := hlooked.symm.trans hchecked
            exact Option.some.inj heq ▸ hown
        | false =>
            intro o₁ _
            show Prog.wp _ _ _ (if o₁.call.granted = true then _ else _ : GateOp Unit) _
            split_ifs
            · exact fun o₂ _ o₃ _ => PassedOwning.of_none hs₁
            · exact PassedOwning.of_none hs₁

lemma validateDevice_same :
    LeftAlone uid device fs (fun x s' => (∀ real, x = Except.ok real → real = fs.realpath device) ∧
      s'.checked = s.checked) (validateDevice device) s := by
  refine Prog.wp_bind (Prog.wp_mono (fun x s₁ hx => ?_) realpath_same)
  obtain ⟨rfl, hs₁⟩ := hx
  refine leftAlone_metadata fun fs' s₂ _ hs₂ => ?_
  have hchecked := hs₂.trans hs₁
  cases fs.node (fs.realpath device) with
  | none => exact ⟨fun real h => by simp at h, hchecked⟩
  | some n =>
      simp only [Option.map_some]
      cases fs'.kind n with
      | regular => exact ⟨fun real h => (Except.ok.inj h).symm, hchecked⟩
      | block disk whole => exact ⟨fun real h => (Except.ok.inj h).symm, hchecked⟩
      | directory => exact ⟨fun real h => by simp at h, hchecked⟩
      | other => exact ⟨fun real h => by simp at h, hchecked⟩

lemma gateDevice_same (extra : List String) (g : Gatekeeper) :
    LeftAlone uid device fs (fun x s' => ∀ real, x = Except.ok real →
      real = fs.realpath device ∧ PassedOwning uid sender device fs s')
      (gateDevice sender kind device extra) ⟨g, none, none⟩ := by
  refine Prog.wp_bind (Prog.wp_mono (fun x s₁ hs₁ => ?_) (gate_same g))
  cases x with
  | error e => exact fun real h => by simp at h
  | ok u =>
      refine Prog.wp_bind (Prog.wp_mono (fun y s₂ hy => ?_) validateDevice_same)
      obtain ⟨hreal, hchecked⟩ := hy
      cases y with
      | error e => exact fun real h => by simp at h
      | ok real =>
          obtain rfl := hreal real rfl
          simp only [checkLens]
          split_ifs
          · exact fun real h => by simp at h
          · intro real h
            exact ⟨(Except.ok.inj h).symm, fun checked hc => hs₁ checked (hchecked ▸ hc)⟩

end

/-- **What is opened is what was checked.**  Whenever a request passes by ownership, and the sender leaves
alone where the device path leads until it has passed: what the operation finds at the path it is given
was a regular file of the sender's when the gate looked at it, at every moment at which that path is
opened and the same object still stands there.  By then only the resolved path matters; where the path of
the request leads does not. -/
theorem opens_what_was_checked (uid : String → ℕ) (sender : String) (kind : AuthKind)
    (device : String) (extra : List String) (g : Gatekeeper) (turns : ℕ → Turn) (fs : FileSystem)
    (hsame : ∀ n, SameDevice device fs (turns n).fs) (real : String) (checked : FileSystem)
    (hpass : (admission uid sender kind device extra turns g).1 = Except.ok real)
    (hchecked : (admission uid sender kind device extra turns g).2.checked = some checked) :
    ∀ fs' : FileSystem, fs'.node real = fs.node real → ∀ n, fs'.node real = some n →
      checked.kind n = FileKind.regular ∧ checked.uid n = uid sender := by
  obtain ⟨hreal, howning⟩ := Prog.wp_sound (gateDevice_same extra g) turns hsame real hpass
  subst hreal
  intro fs' hnode n hn
  rw [hnode] at hn
  exact howning checked hchecked n hn

/-- User 1000 has an image file of their own. -/
def ownImage : FileSystem :=
  FileSystem.ofList [("/home/u/vault.img", FileKind.regular, 1000),
    ("/dev/sdb1", FileKind.block "sdb" false, 0)] []

/-- The user has put a symbolic link to the disk in its place. -/
def linkedImage : FileSystem where
  node := fun p => if p = "/home/u/vault.img" ∨ p = "/dev/sdb1" then some 1 else none
  canonicalize := fun p =>
    if p = "/home/u/vault.img" ∨ p = "/dev/sdb1" then some "/dev/sdb1" else none
  kind := ownImage.kind
  uid := ownImage.uid
  text := fun _ => none
  next := 2
  node_lt := by
    intro p i h
    split_ifs at h
    simp only [Option.some.injEq] at h
    omega
  canonicalize_node := by
    intro p q h
    split_ifs at h with hp
    simp only [Option.some.injEq] at h
    subst h
    simp [hp]

/-- Nothing changes: the file that was looked at is opened. -/
theorem own_image_opened :
    (admission (fun _ => 1000) ":1.7" AuthKind.manage "/home/u/vault.img" []
        (fun _ => ⟨⟨1, true⟩, ownImage⟩) Gatekeeper.start).1 = Except.ok "/home/u/vault.img" ∧
      ownImage.node "/home/u/vault.img" = some 0 ∧
      ownImage.kind 0 = FileKind.regular ∧ ownImage.uid 0 = 1000 := by
  refine ⟨by rfl, by decide +kernel, ?_⟩
  exact opens_what_was_checked (fun _ => 1000) ":1.7" AuthKind.manage "/home/u/vault.img" []
    Gatekeeper.start (fun _ => ⟨⟨1, true⟩, ownImage⟩) ownImage
    (fun _ => ⟨rfl, fun _ _ _ => rfl, rfl⟩) "/home/u/vault.img" ownImage (by rfl) (by rfl) ownImage rfl 0
    (by decide +kernel)

/-- **The disk of root opened.**  The gate looks at the user's own file; then a symbolic link stands
in its place, the request passes, and the operation is given the disk. -/
theorem root_device_opened :
    let turns : ℕ → Turn := fun n => ⟨⟨1, true⟩, if n < 5 then ownImage else linkedImage⟩
    let admitted := admission (fun _ => 1000) ":1.7" AuthKind.manage "/home/u/vault.img" [] turns
      Gatekeeper.start
    admitted.1 = Except.ok "/dev/sdb1" ∧ admitted.2.checked = some ownImage ∧
      linkedImage.node "/dev/sdb1" = some 1 ∧ ¬ (ownImage.uid 1 = 1000) := by
  refine ⟨by rfl, by rfl, by decide +kernel, by decide +kernel⟩

end LuksEnroll
