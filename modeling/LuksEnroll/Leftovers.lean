import LuksEnroll.Creation

/-!
# What a failed create leaves behind

A create is a chain of calls: the file is created or given its length, it is formatted, a keyslot is
added, and the file is handed over to the user.  Any of them can fail after the ones before it, and
nothing is undone then.

`failed_create_leaves` is the account of every failed create of something new, by the call that was its
last.  Before the file is there nothing has happened.  Once it is there it stays, and the same request
made again is refused because of it (`CreateRequest.Stays`); and if the file could not be handed over,
the key of a container without a passphrase stays in the cache.

`Prog.marking` notes the last command of a run, so that the account can be by that command: what has
happened before the file was there, before the format, after it, and before the file was handed over.
-/

namespace LuksEnroll

open Library
open CreateRequest (path fd)

/-! ## Statements

What a create leaves, by the call that failed, and what it would leave if it were undone.
-/

/-- The volume key of the header behind a path is in the cache. -/
def KeyCached (device : String) (t : Creating) : Prop :=
  ∃ h since, t.world.header device = some h
    ∧ t.world.cache (t.world.fs.cacheKey device) = some (h.volumeKey, since)

namespace CreateRequest

/-- There is something to create: no file at the path, or an empty file behind the descriptor. -/
def Fresh : CreateRequest → Creating → Prop
  | path realPath _ _ _, s => s.world.fs.node realPath = none
  | fd _ device _ _, s => ∃ i, s.world.fs.node device = some i ∧ s.size i = 0

/-- As if the request had not been made: there is still something to create, and no key is cached. -/
def RolledBack (r : CreateRequest) (t : Creating) : Prop :=
  r.Fresh t ∧ t.world.cachedKey r.device = none

/-- There is a file, and it makes the service refuse the same request from now on. -/
structure Stays (r : CreateRequest) (t : Creating) : Prop where
  there : (t.world.fs.node r.device).isSome
  refused : ∀ who os, ∃ u, r.body.run (createExec who) os t
    = (Except.ok (false, -1, "A file already exists at this path"), u) ∧ t.Waits u

/-- What a failed create leaves behind, by the call that was its last. -/
def LeftAfter (r : CreateRequest) (s t : Creating) : Option CreateCmd → Prop
  | some (CreateCmd.op (Cmd.createFile _)) => s.Waits t
  | some (CreateCmd.op (Cmd.seek _ _)) => r.Stays t ∧ t.world.cache = s.world.cache
  | some (CreateCmd.op (Cmd.writeAll _ _ _)) => r.Stays t ∧ t.world.cache = s.world.cache
  | some (CreateCmd.op (Cmd.init _)) => r.Stays t ∧ t.world.cache = s.world.cache
  | some (CreateCmd.op (Cmd.format _ _)) => r.Stays t ∧ t.world.cache = s.world.cache
  | some (CreateCmd.op (Cmd.addByKey _ _ _)) => r.Stays t ∧ t.world.cache = s.world.cache
  | some (CreateCmd.op (Cmd.chown _ _ _)) =>
      r.Stays t ∧ if r.passphrase = "" then KeyCached r.device t else t.world.cache = s.world.cache
  | _ => s.Waits t

end CreateRequest

/-- Every failed create of something new is undone. -/
def UndoneOnFailure : Prop :=
  ∀ (r : CreateRequest) (who : ℕ) (os : ℕ → Oracle) (s t : Creating) (slot : ℤ) (err : String),
    r.Fresh s → s.world.cachedKey r.device = none →
    r.body.run (createExec who) os s = (Except.ok (false, slot, err), t) → r.RolledBack t

/-! ## Formatting

Formatting touches the header and the clock, and caches a key at most; the file is there all along.
-/

/-- The commands of an operation, in the state of a create, the last of them noted. -/
def markedExec (who : ℕ) : Handler Cmd Reply Oracle (Creating × Option CreateCmd) :=
  fun c o u => Prog.marking (createExec who) (CreateCmd.op c) o u

namespace Creating

@[simp] lemma later_fs (s : Creating) (d : ℕ) : (s.later d).world.fs = s.world.fs := rfl

@[simp] lemma later_size (s : Creating) (d : ℕ) : (s.later d).size = s.size := rfl

/-- The files and their lengths are the same. -/
structure SameFiles (s t : Creating) : Prop where
  fs : t.world.fs = s.world.fs
  size : t.size = s.size

/-- Only headers and the clock may differ. -/
structure OnlyHeaders (s t : Creating) : Prop extends s.SameFiles t where
  cache : t.world.cache = s.world.cache

lemma OnlyHeaders.refl (s : Creating) : s.OnlyHeaders s := ⟨⟨rfl, rfl⟩, rfl⟩

end Creating

section

variable {who : ℕ} {device passphrase : String} {s t : Creating} {c : Cmd} {o : Oracle}

/-- Formatting writes headers; what it caches is another matter. -/
lemma formatsAt_onlyHeaders (hs : s.OnlyHeaders t) (hc : c.FormatsAt device False) :
    s.OnlyHeaders (opExec who c o t).2 := by
  have hc' : c.FormatsAt device True := by
    cases c with
    | cacheInsert d vk => exact hc.2.elim
    | _ => exact hc
  refine ⟨⟨(formatsAt_fs hc' o t).trans hs.fs, ?_⟩, Eq.trans ?_ hs.cache⟩
  · cases c with
    | createFile path => exact hc.elim
    | writeAll path offset bytes => exact hc.elim
    | _ => exact hs.size
  · cases c with
    | format d vk =>
        obtain ⟨luks, hluks⟩ := World.format_stored (t.later o.elapsed).world o d vk
        have hcache := congrArg World.cache hluks
        exact hcache
    | addByKey d vk pw =>
        obtain ⟨luks, hluks⟩ := World.update_stored (t.later o.elapsed).world d o fun h =>
          h.addByKey (some who) o vk pw
        have hcache := congrArg World.cache hluks
        exact hcache
    | init d => rfl
    | cacheInsert d vk => exact hc.2.elim
    | setMetadataSize => rfl
    | osRandom k => rfl
    | _ => exact hc.elim

/-- The calls of a format that can fail. -/
def FormatStep (device : String) (c : Cmd) : Prop :=
  c = Cmd.init device ∨ (∃ vk, c = Cmd.format device vk) ∨ ∃ vk pw, c = Cmd.addByKey device vk pw

/-- How formatting turns out: the files are the same in any case, and a key is cached only where nothing
failed. -/
inductive Formatted {α : Type} (device passphrase : String) (s : Creating) :
    Except String α → Creating × Option CreateCmd → Prop
  | failed {e : String} {u : Creating × Option CreateCmd} {c : Cmd} (same : s.OnlyHeaders u.1)
      (last : u.2 = some (CreateCmd.op c)) (step : FormatStep device c) :
      Formatted device passphrase s (Except.error e) u
  | keyless {a : α} {u : Creating × Option CreateCmd} (empty : passphrase = "")
      (same : s.SameFiles u.1) (cached : KeyCached device u.1) :
      Formatted device passphrase s (Except.ok a) u
  | keyed {a : α} {u : Creating × Option CreateCmd} (given : passphrase ≠ "")
      (same : s.OnlyHeaders u.1) : Formatted device passphrase s (Except.ok a) u

lemma Formatted.of_ok {α β : Type} {a : α} {u : Creating × Option CreateCmd}
    (h : Formatted device passphrase s (Except.ok a) u) (b : β) :
    Formatted device passphrase s (Except.ok b) u := by
  cases h with
  | keyless empty same cached => exact Formatted.keyless empty same cached
  | keyed given same => exact Formatted.keyed given same

/-- A failure, whatever would have been answered. -/
lemma Formatted.of_error {α β : Type} {e : String} {u : Creating × Option CreateCmd}
    (h : Formatted (α := α) device passphrase s (Except.error e) u) :
    Formatted (α := β) device passphrase s (Except.error e) u := by
  cases h with
  | failed same last step => exact Formatted.failed same last step

lemma format_header {vk : VolumeKey} {a : Unit}
    (hok : (opExec who (Cmd.format device (some vk)) o s).1 = Except.ok a) :
    ∃ h, (opExec who (Cmd.format device (some vk)) o s).2.world.header device = some h
      ∧ h.volumeKey = vk := by
  simp only [opExec, createExec, Creating.answer, LuksEnroll.answer, World.format,
    Creating.later_fs] at hok ⊢
  cases hnode : s.world.fs.node device with
  | none => simp [hnode] at hok
  | some i =>
      cases hfault : o.fault with
      | some e => simp [hnode, hfault] at hok
      | none => exact ⟨Header.fresh vk, by simp [World.header, World.lose, hnode], rfl⟩

/-- A format without a passphrase, and what it leaves when it fails. -/
lemma formatLuks2Keyless_leaves (m : Option CreateCmd) :
    (formatLuks2Keyless device KeyslotsArea.default).wp (markedExec who) (fun _ => True)
      (Formatted device "" s) (s, m) := by
  intro o₀ _
  have hrandom : (Cmd.osRandom 64).FormatsAt device False := trivial
  have h₀ : s.OnlyHeaders (opExec who (Cmd.osRandom 64) o₀ s).2 :=
    formatsAt_onlyHeaders (Creating.OnlyHeaders.refl s) hrandom
  generalize (markedExec who (Cmd.osRandom 64) o₀ (s, m)).1 = vk
  show ((ask (Cmd.init device)).bind _).wp (markedExec who) _ _
    ((opExec who (Cmd.osRandom 64) o₀ s).2, some (CreateCmd.op (Cmd.osRandom 64)))
  generalize (opExec who (Cmd.osRandom 64) o₀ s).2 = s₀ at h₀
  refine wp_ask_orFail (c := Cmd.init device) (r := id) (fun o₁ _ _ _ => ?_) (fun o₁ e _ _ => ?_)
  · have h₁ : s.OnlyHeaders (opExec who (Cmd.init device) o₁ s₀).2 := formatsAt_onlyHeaders h₀ rfl
    refine wp_ask_orFail (c := Cmd.format device (some ⟨vk⟩)) (r := id) (fun o₂ a _ hok => ?_)
      (fun o₂ e _ _ => ?_)
    · have h₂ : s.OnlyHeaders (opExec who (Cmd.format device (some ⟨vk⟩)) o₂ _).2 :=
        formatsAt_onlyHeaders h₁ rfl
      obtain ⟨h, hheader, hkey⟩ := format_header hok
      intro o₃ _
      refine Formatted.keyless rfl ⟨h₂.fs, h₂.size⟩ ⟨h, ?_⟩
      rw [hkey]
      exact ⟨_, hheader, Function.update_self ..⟩
    · exact Formatted.failed (formatsAt_onlyHeaders h₁ rfl) rfl (Or.inr (Or.inl ⟨_, rfl⟩))
  · exact Formatted.failed (formatsAt_onlyHeaders h₀ rfl) rfl (Or.inl rfl)

/-- A format with a passphrase, and what it leaves when it fails. -/
lemma formatLuks2_leaves (hne : passphrase ≠ "") (m : Option CreateCmd) :
    (formatLuks2 device passphrase KeyslotsArea.default).wp (markedExec who) (fun _ => True)
      (Formatted device passphrase s) (s, m) := by
  have h₀ := Creating.OnlyHeaders.refl s
  refine wp_ask_orFail (c := Cmd.init device) (r := id) (fun o₁ _ _ _ => ?_) (fun o₁ e _ _ => ?_)
  · have h₁ : s.OnlyHeaders (opExec who (Cmd.init device) o₁ s).2 := formatsAt_onlyHeaders h₀ rfl
    refine wp_ask_orFail (c := Cmd.format device none) (r := id) (fun o₂ _ _ _ => ?_)
      (fun o₂ e _ _ => ?_)
    · have h₂ : s.OnlyHeaders (opExec who (Cmd.format device none) o₂ _).2 :=
        formatsAt_onlyHeaders h₁ rfl
      refine wp_ask_orFail_last (c := Cmd.addByKey device none (asBytes passphrase)) (r := id)
        (fun o₃ i _ _ => ?_) (fun o₃ e _ _ => ?_)
      · have h₃ : s.OnlyHeaders
            (opExec who (Cmd.addByKey device none (asBytes passphrase)) o₃ _).2 :=
          formatsAt_onlyHeaders h₂ rfl
        exact Formatted.keyed hne h₃
      · exact Formatted.failed (formatsAt_onlyHeaders h₂ rfl) rfl (Or.inr (Or.inr ⟨_, _, rfl⟩))
    · exact Formatted.failed (formatsAt_onlyHeaders h₁ rfl) rfl (Or.inr (Or.inl ⟨_, rfl⟩))
  · exact Formatted.failed (formatsAt_onlyHeaders h₀ rfl) rfl (Or.inl rfl)

lemma formatContainer_leaves (m : Option CreateCmd) :
    (formatContainer device passphrase).wp (markedExec who) (fun _ => True)
      (Formatted device passphrase s) (s, m) := by
  by_cases hempty : passphrase = ""
  · subst hempty
    rw [formatContainer, if_pos rfl]
    refine Prog.wp_bind (Prog.wp_mono (fun x u hx => ?_) (formatLuks2Keyless_leaves m))
    cases x with
    | error e => exact hx.of_error
    | ok a => exact hx.of_ok _
  · rw [formatContainer, if_neg hempty]
    refine Prog.wp_bind (Prog.wp_mono (fun x u hx => ?_) (formatLuks2_leaves hempty m))
    cases x with
    | error e => exact hx.of_error
    | ok a => exact hx.of_ok _

/-! ## Repeating a request

The guard finds the file that the failed request left.
-/

/-- Asking whether a path exists changes nothing. -/
lemma createExec_pathExists (who : ℕ) (p : String) (o : Oracle) (s : Creating) :
    createExec who (CreateCmd.op (Cmd.pathExists p)) o s
      = (s.world.fs.pathExists p, s.later o.elapsed) := rfl

lemma createExec_isFile (who : ℕ) (p : String) (o : Oracle) (s : Creating) :
    createExec who (CreateCmd.op (Cmd.isFile p)) o s
      = (decide (s.world.fs.kindAt p = some FileKind.regular), s.later o.elapsed) := rfl

lemma path_stays {realPath : String} {sizeMb : ℤ} {owner : ℕ × ℕ} {i : ℕ}
    (hnode : t.world.fs.node realPath = some i) (hkind : t.world.fs.kind i = FileKind.regular) :
    (path realPath sizeMb passphrase (some owner)).Stays t where
  there := by simp [CreateRequest.device, hnode]
  refused := by
    intro who os
    refine ⟨(t.later (os 0).elapsed).later (os 1).elapsed, ?_, ⟨_, Creating.later_later _ _ _⟩⟩
    simp [CreateRequest.body, opCreateEncryptedImage, ask, Prog.perform, lift, Prog.run,
      createExec_pathExists, createExec_isFile, Creating.later_later, FileSystem.pathExists,
      FileSystem.kindAt, hnode, hkind]

lemma fd_stays {d : Descriptor} {sizeMb : ℤ} {i : ℕ} (hcheck : d.checkFd true true = Except.ok ())
    (hlen : ¬ maxStringLen < passphrase.utf8ByteSize) (hsize : 1 ≤ sizeMb ∧ sizeMb ≤ 8192)
    (hnode : t.world.fs.node device = some i) (hpos : 0 < t.size i) :
    (fd d device sizeMb passphrase).Stays t where
  there := by simp [CreateRequest.device, hnode]
  refused := by
    intro who os
    refine ⟨t.later (os 0).elapsed, ?_, ⟨_, rfl⟩⟩
    simp [CreateRequest.body, hcheck, Prog.ofExcept, if_neg hlen, if_pos hsize, Prog.perform, Prog.run,
      createExec, Creating.answer, hnode, Nat.ne_of_gt hpos]

/-! ## Creating

The functions of a create from the innermost to the request, each with what it leaves.
-/

/-- Creating a file where none is: it is there, or the call failed and nothing is. -/
lemma createFile_leaves {realPath : String} (hnone : s.world.fs.node realPath = none) :
    (s.Waits (opExec who (Cmd.createFile realPath) o s).2
        ∧ ∃ e, (opExec who (Cmd.createFile realPath) o s).1 = Except.error e)
      ∨ (opExec who (Cmd.createFile realPath) o s).1 = Except.ok ()
        ∧ (opExec who (Cmd.createFile realPath) o s).2.world.cache = s.world.cache
        ∧ ∃ i, (opExec who (Cmd.createFile realPath) o s).2.world.fs.node realPath = some i
          ∧ (opExec who (Cmd.createFile realPath) o s).2.world.fs.kind i = FileKind.regular := by
  simp only [opExec, createExec, Creating.answer, LuksEnroll.answer, World.createFile,
    Creating.later_fs, hnone]
  cases hfault : o.fault with
  | none =>
      refine Or.inr ⟨rfl, rfl, s.world.fs.next, ?_, ?_⟩
      · simp [FileSystem.create, hnone]
      · simp [FileSystem.create]
  | some e =>
      refine Or.inl ⟨⟨o.elapsed, ?_⟩, e, rfl⟩
      simp only [Creating.sizeAfter, Creating.madeAfter, hfault]

/-- Writing to a file leaves all paths and the cache as they are. -/
lemma writeAll_leaves {realPath : String} {offset : ℕ} {bytes : Bytes} :
    (opExec who (Cmd.writeAll realPath offset bytes) o s).2.world.fs = s.world.fs
      ∧ (opExec who (Cmd.writeAll realPath offset bytes) o s).2.world.cache = s.world.cache := by
  obtain ⟨luks, hluks⟩ := World.write_stored (s.later o.elapsed).world o realPath
  simp only [opExec, createExec, Creating.answer, LuksEnroll.answer, hluks]
  exact ⟨rfl, rfl⟩

/-- The refusals, and the failures of what a create goes on with. -/
lemma runCreate_leaves {body : Op ℤ} {Q : Creating × Option CreateCmd → Prop}
    {u : Creating × Option CreateCmd}
    (hb : body.wp (markedExec who) (fun _ => True) (fun x v => ∀ e, x = Except.error e → Q v) u) :
    (lift (runCreate body)).wp (Prog.marking (createExec who)) (fun _ => True)
      (fun x v => ∀ slot err, x = Except.ok (false, slot, err) → Q v) u := by
  refine wp_lift (Prog.wp_bind (Prog.wp_attempt (Prog.wp_mono (fun x v hx => ?_) hb)))
  cases x with
  | ok slot =>
      intro slot' err h
      cases h
  | error e => exact fun _ _ _ => hx e rfl

/-- Handing a file over changes its owner, if it changes anything. -/
lemma chown_leaves {uid gid : ℕ} {e : String}
    (herr : (opExec who (Cmd.chown device uid gid) o s).1 = Except.error e) :
    s.Waits (opExec who (Cmd.chown device uid gid) o s).2 := by
  refine ⟨o.elapsed, ?_⟩
  cases hfault : o.fault with
  | none =>
      simp [opExec, createExec, Creating.answer, LuksEnroll.answer, Oracle.unlessFault, hfault] at herr
  | some e' =>
      simp only [opExec, createExec, Creating.answer, LuksEnroll.answer, hfault]
      rfl

/-- A failed format, of a file that is there. -/
lemma leftAfter_failed {r : CreateRequest} {s₀ : Creating} {u : Creating × Option CreateCmd} {e : String}
    (hstays : s.SameFiles u.1 → r.Stays u.1) (hcache : s.world.cache = s₀.world.cache)
    (hx : Formatted (α := ℤ) device passphrase s (Except.error e) u) : r.LeftAfter s₀ u.1 u.2 := by
  cases hx with
  | failed same last step =>
      have hleft := And.intro (hstays same.toSameFiles) (same.cache.trans hcache)
      rw [last]
      rcases step with rfl | ⟨vk, rfl⟩ | ⟨vk, pw, rfl⟩
      · exact hleft
      · exact hleft
      · exact hleft

/-- Formatting a new file and handing it over. -/
lemma handOver_leaves {s₀ : Creating} {realPath : String} {sizeMb : ℤ} {owner : ℕ × ℕ} {i : ℕ}
    (hnode : s.world.fs.node realPath = some i) (hkind : s.world.fs.kind i = FileKind.regular)
    (hcache : s.world.cache = s₀.world.cache) (m : Option CreateCmd) :
    ((formatContainer realPath passphrase).bind fun keyslot =>
      ((ask (Cmd.chown realPath owner.1 owner.2)).bind fun x => orFail x id).bind fun _ =>
        Prog.ret keyslot).wp (markedExec who) (fun _ => True)
      (fun x v => ∀ e, x = Except.error e →
        (path realPath sizeMb passphrase (some owner)).LeftAfter s₀ v.1 v.2) (s, m) := by
  have hstays : ∀ {t : Creating}, t.world.fs = s.world.fs →
      (path realPath sizeMb passphrase (some owner)).Stays t := by
    intro t hfs
    rw [← hfs] at hnode hkind
    exact path_stays hnode hkind
  refine Prog.wp_bind (Prog.wp_mono (fun x u hx => ?_) (formatContainer_leaves m))
  cases x with
  | error e => exact fun _ _ => leftAfter_failed (fun hsame => hstays hsame.fs) hcache hx
  | ok keyslot =>
      refine Prog.wp_bind (wp_ask_orFail_last (c := Cmd.chown realPath owner.1 owner.2) (r := id)
        (fun o _ _ _ e h => by cases h) (fun o e _ herr e' _ => ?_))
      obtain ⟨d, hwaits⟩ : u.1.Waits (opExec who (Cmd.chown realPath owner.1 owner.2) o u.1).2 :=
        chown_leaves herr
      show (path realPath sizeMb passphrase (some owner)).LeftAfter s₀ (opExec who _ o u.1).2
        (some (CreateCmd.op (Cmd.chown realPath owner.1 owner.2)))
      rw [hwaits]
      cases hx with
      | keyless empty same cached => exact ⟨hstays same.fs, (if_pos empty).mpr cached⟩
      | keyed given same =>
          exact ⟨hstays same.fs, (if_neg given).mpr (same.cache.trans hcache)⟩

/-- Making the file: from the first of the three calls on it is there, whatever comes of the other
two. -/
lemma createImageFile_leaves {s₀ : Creating} {realPath : String} {sizeMb : ℤ} {owner : ℕ × ℕ}
    (hs : s₀.Waits s) (hnone : s.world.fs.node realPath = none) :
    (createImageFile realPath sizeMb).wp (markedExec who) (fun _ => True)
      (fun x v => match x with
        | Except.ok _ => v.1.world.cache = s₀.world.cache
            ∧ ∃ i, v.1.world.fs.node realPath = some i ∧ v.1.world.fs.kind i = FileKind.regular
        | Except.error _ => (path realPath sizeMb passphrase (some owner)).LeftAfter s₀ v.1 v.2)
      (s, some (CreateCmd.op (Cmd.pathExists realPath))) := by
  have hcache : s.world.cache = s₀.world.cache := by
    obtain ⟨d, rfl⟩ := hs
    rfl
  rw [createImageFile]
  split_ifs with hsize
  · refine wp_ask_orFail (c := Cmd.createFile realPath) (r := id) (fun o₁ u _ hok => ?_)
      (fun o₁ e _ herr => ?_)
    · rcases @createFile_leaves who s o₁ realPath hnone with
        ⟨-, e, herr⟩ | ⟨-, hcache₁, i, hnode, hkind⟩
      · exact absurd (herr.symm.trans hok) (by simp)
      refine wp_ask_orFail (c := Cmd.seek realPath _) (r := id) (fun o₂ _ _ _ => ?_)
        (fun o₂ e _ _ => ⟨path_stays hnode hkind, hcache₁.trans hcache⟩)
      have hwrite := fun o₃ => @writeAll_leaves who
        (opExec who (Cmd.seek realPath (sizeMb.toNat * 1024 * 1024 - 1)) o₂
          (opExec who (Cmd.createFile realPath) o₁ s).2).2 o₃ realPath
        (sizeMb.toNat * 1024 * 1024 - 1) [0]
      refine wp_ask_orFail_last (c := Cmd.writeAll realPath _ [0]) (r := id) (fun o₃ _ _ _ => ?_)
        (fun o₃ e _ _ => ?_)
      · obtain ⟨hfs, hcache₃⟩ := hwrite o₃
        refine ⟨hcache₃.trans (hcache₁.trans hcache), i, ?_, ?_⟩
        · exact (congrArg (fun fs => FileSystem.node fs realPath) hfs).trans hnode
        · exact (congrArg (fun fs => FileSystem.kind fs i) hfs).trans hkind
      · obtain ⟨hfs, hcache₃⟩ := hwrite o₃
        refine ⟨path_stays (i := i) ?_ ?_, hcache₃.trans (hcache₁.trans hcache)⟩
        · exact (congrArg (fun fs => FileSystem.node fs realPath) hfs).trans hnode
        · exact (congrArg (fun fs => FileSystem.kind fs i) hfs).trans hkind
    · rcases @createFile_leaves who s o₁ realPath hnone with ⟨hwaits, -⟩ | ⟨hok, -⟩
      · exact hs.trans hwaits
      · exact absurd (herr.symm.trans hok) (by simp)
  · exact hs

/-- Creating, formatting and handing over a new file, and what is left at each failure. -/
lemma createContainer_leaves {s₀ : Creating} {realPath : String} {sizeMb : ℤ} {owner : ℕ × ℕ}
    (hs : s₀.Waits s) (hnone : s.world.fs.node realPath = none) :
    (createContainer realPath sizeMb passphrase (some owner)).wp (markedExec who) (fun _ => True)
      (fun x v => ∀ e, x = Except.error e →
        (path realPath sizeMb passphrase (some owner)).LeftAfter s₀ v.1 v.2)
      (s, some (CreateCmd.op (Cmd.pathExists realPath))) := by
  refine Prog.wp_bind (Prog.wp_mono (fun x v hx => ?_)
    (@createImageFile_leaves _ passphrase _ _ _ sizeMb owner hs hnone))
  cases x with
  | error e => exact fun _ _ => hx
  | ok _ =>
      obtain ⟨hcache, i, hnode, hkind⟩ := hx
      exact handOver_leaves hnode hkind hcache v.2

lemma ftruncate_leaves {size i : ℕ} (hnode : s.world.fs.node device = some i) (hzero : s.size i = 0) :
    (s.Waits (createExec who (CreateCmd.ftruncate device size) o s).2
        ∧ ∃ e, (createExec who (CreateCmd.ftruncate device size) o s).1 = Except.error e)
      ∨ (createExec who (CreateCmd.ftruncate device size) o s).1 = Except.ok ()
        ∧ (createExec who (CreateCmd.ftruncate device size) o s).2.world = (s.later o.elapsed).world
        ∧ (createExec who (CreateCmd.ftruncate device size) o s).2.size i = size := by
  simp only [createExec, Creating.answer, Creating.later_fs, hnode]
  cases hfault : o.fault with
  | some e => exact Or.inl ⟨⟨o.elapsed, rfl⟩, e, rfl⟩
  | none =>
      have hlonger : ¬ (size < (s.later o.elapsed).size i ∧ o.flag = true) := by simp [hzero]
      exact Or.inr ⟨rfl, if_neg hlonger, Function.update_self ..⟩

/-- The blocking part of a create on a descriptor. -/
lemma sizeAndCreate_leaves {s₀ : Creating} {d : Descriptor} {sizeMb : ℤ} {i : ℕ}
    (hcheck : d.checkFd true true = Except.ok ())
    (hlen : ¬ maxStringLen < passphrase.utf8ByteSize) (hsize : 1 ≤ sizeMb ∧ sizeMb ≤ 8192)
    (hs : s₀.Waits s) (hnode : s.world.fs.node device = some i) (hzero : s.size i = 0)
    (m : Option CreateCmd) :
    (sizeAndCreate device sizeMb passphrase).wp (Prog.marking (createExec who)) (fun _ => True)
      (fun x v => ∀ slot err, x = Except.ok (false, slot, err) →
        (fd d device sizeMb passphrase).LeftAfter s₀ v.1 v.2) (s, m) := by
  intro o _
  have hpos : 0 < sizeMb.toNat * 1024 * 1024 := by omega
  have hcache : s.world.cache = s₀.world.cache := by
    obtain ⟨d, rfl⟩ := hs
    rfl
  rcases ftruncate_leaves (o := o) hnode hzero with
    ⟨hwaits, e, herr⟩ | ⟨hok, hworld, hlength⟩
  · have hreply : (Prog.marking (createExec who)
        (CreateCmd.ftruncate device (sizeMb.toNat * 1024 * 1024)) o (s, m)).1 = Except.error e := herr
    rw [hreply]
    exact fun _ _ _ => hs.trans hwaits
  · have hreply : (Prog.marking (createExec who)
        (CreateCmd.ftruncate device (sizeMb.toNat * 1024 * 1024)) o (s, m)).1 = Except.ok () := hok
    rw [hreply]
    refine runCreate_leaves (Prog.wp_mono (fun x u hx => ?_) (formatContainer_leaves _))
    rintro e rfl
    refine leftAfter_failed (fun hsame => ?_) ((congrArg World.cache hworld).trans hcache) hx
    refine fd_stays (i := i) hcheck hlen hsize ?_ ?_
    · rw [hsame.fs, hworld]
      exact hnode
    · rw [hsame.size, hlength]
      exact hpos

/-- **What a request leaves behind when it fails.** -/
lemma body_leaves {r : CreateRequest} (hfresh : r.Fresh s) :
    r.body.wp (Prog.marking (createExec who)) (fun _ => True)
      (fun x v => ∀ slot err, x = Except.ok (false, slot, err) → r.LeftAfter s v.1 v.2)
      (s, none) := by
  cases r with
  | path realPath sizeMb passphrase owner =>
      cases owner with
      | none => exact fun _ _ _ => Creating.Waits.refl s
      | some owner =>
          have hnone : s.world.fs.node realPath = none := hfresh
          intro o _
          have hmissing : (Prog.marking (createExec who) (CreateCmd.op (Cmd.pathExists realPath)) o
              (s, none)).1 = false := by
            simp [Prog.marking, createExec_pathExists, FileSystem.pathExists, hnone]
          rw [hmissing]
          have hwaits : s.Waits (s.later o.elapsed) := ⟨o.elapsed, rfl⟩
          show (lift (if underHomeOrTmp realPath = true then _ else _)).wp _ _ _
            (s.later o.elapsed, some (CreateCmd.op (Cmd.pathExists realPath)))
          split_ifs with hunder
          · exact runCreate_leaves (createContainer_leaves hwaits hnone)
          · exact fun _ _ _ => hwaits
  | fd d device sizeMb passphrase =>
      obtain ⟨i, hnode, hzero⟩ := hfresh
      rw [CreateRequest.body]
      cases hcheck : d.checkFd true true with
      | error e => exact fun _ _ h => by cases h
      | ok _ =>
          show (if maxStringLen < passphrase.utf8ByteSize then _
            else if 1 ≤ sizeMb ∧ sizeMb ≤ 8192 then _ else _ : CreateOp CreateAnswer).wp _ _ _ _
          split_ifs with hlen hsize
          · exact fun _ _ h => by cases h
          · intro o _
            have hwaits : s.Waits (s.later o.elapsed) := ⟨o.elapsed, rfl⟩
            show (if _ = some 0 then sizeAndCreate device sizeMb passphrase else _).wp _ _ _
              (s.later o.elapsed, some (CreateCmd.fstat device))
            split_ifs
            · exact sizeAndCreate_leaves hcheck hlen hsize hwaits hnode hzero _
            · exact fun _ _ _ => hwaits
          · exact fun _ _ _ => Creating.Waits.refl s

end

/-- **What every failed create leaves behind**: for every request, whatever fails.  The call that was the
last decides whether the file is there, whether the request can be repeated, and whether a key is still
cached. -/
theorem failed_create_leaves {r : CreateRequest} {who : ℕ} {os : ℕ → Oracle} {s t : Creating}
    {slot : ℤ} {err : String} (hfresh : r.Fresh s)
    (hrun : r.body.run (createExec who) os s = (Except.ok (false, slot, err), t)) :
    r.LeftAfter s t (r.body.lastCall (createExec who) os s) := by
  have hbody : r.body.wp (Prog.marking (createExec who)) (fun _ => True)
      (fun x v => ∀ slot err, x = Except.ok (false, slot, err) → r.LeftAfter s v.1 v.2)
      (s, none) := body_leaves hfresh
  have hleft := Prog.wp_marking_sound
    (Q := fun x t m => ∀ slot err, x = Except.ok (false, slot, err) → r.LeftAfter s t m) hbody os
    fun _ => trivial
  rw [hrun] at hleft
  exact hleft slot err rfl

/-! ## A file too small for a header

The failed format that a user can bring about: an image of one MiB.
-/

/-- A container of 1 MiB, for the user with the id 1000. -/
def tooSmall : CreateRequest := path "/home/u/vault.img" 1 "" (some (1000, 1000))

/-- Nothing fails but the format, which is the seventh call. -/
def formatFails (n : ℕ) : Oracle :=
  { Oracle.quiet with fault := if n = 6 then some "Device is too small." else none }

/-- The start, and the state that the request leaves. -/
def atStart : Creating := ⟨emptyWorld, fun _ => 0, fun _ => none⟩

/-- The state after the request that failed. -/
def afterTooSmall : Creating := (tooSmall.body.run (createExec 0) formatFails atStart).2

lemma tooSmall_fresh : tooSmall.Fresh atStart := rfl

lemma tooSmall_fails : tooSmall.body.run (createExec 0) formatFails atStart
    = (Except.ok (false, -1, "Operation failed"), afterTooSmall) := by
  refine Prod.ext ?_ rfl
  rfl

lemma tooSmall_last : tooSmall.body.lastCall (createExec 0) formatFails atStart
    = some (CreateCmd.op (Cmd.format "/home/u/vault.img" (some ⟨List.replicate 64 0⟩))) := by
  rfl

/-- The format is the last call, and the file stays. -/
theorem tooSmall_stays :
    tooSmall.Stays afterTooSmall ∧ afterTooSmall.world.cache = atStart.world.cache := by
  have hleft := failed_create_leaves tooSmall_fresh tooSmall_fails
  rw [tooSmall_last] at hleft
  exact hleft

/-- **A failed create is not undone**: the file that was created for it is still there. -/
theorem failed_format_not_undone : ¬ UndoneOnFailure := by
  intro h
  have hback := h tooSmall 0 formatFails atStart afterTooSmall _ _ tooSmall_fresh rfl tooSmall_fails
  have hnode : afterTooSmall.world.fs.node "/home/u/vault.img" = some 0 := rfl
  have hnone : afterTooSmall.world.fs.node "/home/u/vault.img" = none := hback.1
  rw [hnode] at hnone
  cases hnone

end LuksEnroll
