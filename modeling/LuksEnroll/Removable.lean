import LuksEnroll.Service

/-!
# What `format_removable_partition` writes to

Before it writes anything, the function reads the removable flag of the disk whose kernel name it
makes out of the *name* of its argument.  Nothing ties that name to the object behind the path: the
argument may be any regular file or block device, and a file called `sdb` in somebody's home
directory borrows the flag of the disk `sdb` (`regular_file_overwritten`).  The partition it formats
is found by name too, and accepted because something is there.

The writes stay on the disk whose flag was read exactly if the path is a block of that disk, and so
is whatever is already there under the name of its first partition.
-/

namespace LuksEnroll

open Library
open Prog (AllCalls Issues)

variable {who : Option ℕ} {device passphrase : String} {w : World}

/-! ## Writes

What a command writes to, which disk that is on, and whether that disk is removable by the kernel's
flag.
-/

/-- What a command writes to: by `wipefs`, by the partitioner or by the LUKS2 format. -/
def Cmd.target : Cmd → Option String
  | Cmd.wipefs d => some d
  | Cmd.gptZapAndPartition d => some d
  | Cmd.format d _ => some d
  | Cmd.addByKey d _ _ => some d
  | _ => none

/-- The path is the disk, or a partition of it. -/
def World.OnDisk (w : World) (disk path : String) : Prop :=
  ∃ whole, w.fs.kindAt path = some (FileKind.block disk whole)

/-- What the command writes to, if anything, is on the disk that `device` is named after, and the
removable flag of that disk is set. -/
def WritesRemovable (device : String) (c : Cmd) (v : World) : Prop :=
  ∀ t, c.target = some t →
    v.fs.readSysfs (removablePath device) = some "1" ∧ v.OnDisk (parentDeviceName device) t

/-- The writes of every run of `format_removable_partition`, wherever their targets lead at that
time, are on the removable disk whose flag it reads. -/
def FormatsRemovable (device passphrase : String) (w : World) : Prop :=
  ∀ os, ∀ x ∈ (formatRemovablePartition device passphrase).trace (exec none) os w,
    WritesRemovable device x.1 x.2

/-- **The condition**: the flag is not set, and nothing is written; or the path is a block of that
disk, and, unless it is a partition, so is what the name of its first partition already reaches. -/
def NamesItsDisk (device : String) (w : World) : Prop :=
  w.fs.readSysfs (removablePath device) ≠ some "1"
    ∨ w.OnDisk (parentDeviceName device) device
      ∧ (w.fs.pathExists (partitionPath device) = true
        ∨ (w.fs.pathExists (firstPartitionPath device) = true →
          w.OnDisk (parentDeviceName device) (firstPartitionPath device)))

lemma writesRemovable_of_target {c : Cmd} (hc : c.target = none) (v : World) :
    WritesRemovable device c v := by
  intro t ht
  rw [hc] at ht
  cases ht

/-! ## Rules for what is issued

A rule for one call in the middle of a format, as in `Outcomes`.
-/

section Rules

variable {α β : Type} {P : Cmd → World → Prop} {c : Cmd} {r : Reply c → Except String α}
  {word : String → String}

lemma issues_ask_orFail {k : α → Op β} :
    ((ask c).bind fun x => (orFail (r x) word).bind k).Issues (exec who) P w
      ↔ P c w ∧ ∀ o a, r (exec who c o w).1 = Except.ok a →
        (k a).Issues (exec who) P (exec who c o w).2 := by
  refine and_congr_right fun _ => forall_congr' fun o => ?_
  show ((orFail (r (exec who c o w).1) word).bind k).Issues _ _ _ ↔ _
  cases hr : r (exec who c o w).1 with
  | ok a =>
      refine ⟨fun hk a' ha' => ?_, fun hk => hk a rfl⟩
      cases ha'
      exact hk
  | error e => simp [orFail, Prog.Issues, Except.mapError]

end Rules

/-! ## While a disk is partitioned

Partitions come and go while the kernel reads the table again.  What the disk is called and that it
is removable stays.
-/

/-- What is there stays, and what is new is a partition of the disk. -/
structure Probed (disk : String) (w v : World) : Prop where
  text : v.fs.text = w.fs.text
  next_le : w.fs.next ≤ v.fs.next
  kind : ∀ i < w.fs.next, v.fs.kind i = w.fs.kind i
  node : ∀ p i, w.fs.node p = some i → v.fs.node p = some i
  node_new : ∀ p i, v.fs.node p = some i → w.fs.node p = some i ∨ v.OnDisk disk p

namespace Probed

variable {disk : String} {u v : World}

lemma of_fs (hfs : v.fs = w.fs) : Probed disk w v where
  text := by rw [hfs]
  next_le := by rw [hfs]
  kind := fun _ _ => by rw [hfs]
  node := fun _ _ h => by rw [hfs]; exact h
  node_new := fun _ _ h => Or.inl (by rw [← hfs]; exact h)

lemma kindAt (hp : Probed disk w v) {p : String} {k : FileKind} (hk : w.fs.kindAt p = some k) :
    v.fs.kindAt p = some k := by
  obtain ⟨i, hi, hkind⟩ := Option.map_eq_some_iff.mp hk
  rw [FileSystem.kindAt, hp.node p i hi, Option.map_some, hp.kind i (w.fs.node_lt p i hi), hkind]

lemma onDisk (hp : Probed disk w v) {p : String} (hd : w.OnDisk disk p) : v.OnDisk disk p := by
  obtain ⟨whole, hk⟩ := hd
  exact ⟨whole, hp.kindAt hk⟩

lemma readSysfs (hp : Probed disk w v) (p : String) : v.fs.readSysfs p = w.fs.readSysfs p := by
  rw [FileSystem.readSysfs, FileSystem.readSysfs, hp.text]

/-- A path that was on the disk if it was anything still is. -/
lemma onDisk_of_exists (hp : Probed disk w v) {p : String}
    (hw : w.fs.pathExists p = true → w.OnDisk disk p) (hv : v.fs.pathExists p = true) :
    v.OnDisk disk p := by
  obtain ⟨i, hi⟩ := Option.isSome_iff_exists.mp hv
  rcases hp.node_new p i hi with hold | hnew
  · exact hp.onDisk (hw (Option.isSome_iff_exists.mpr ⟨i, hold⟩))
  · exact hnew

lemma trans (hp : Probed disk u v) (hp' : Probed disk v w) : Probed disk u w where
  text := hp'.text.trans hp.text
  next_le := hp.next_le.trans hp'.next_le
  kind := fun i hi => (hp'.kind i (hi.trans_le hp.next_le)).trans (hp.kind i hi)
  node := fun p i h => hp'.node p i (hp.node p i h)
  node_new := fun p i h => by
    rcases hp'.node_new p i h with hv | hd
    · exact (hp.node_new p i hv).imp id fun hd => hp'.onDisk hd
    · exact Or.inr hd

/-- A node that appears is a partition of the disk. -/
lemma create (path : String) (aliases : String → Bool) :
    Probed disk w { w with fs := w.fs.create path (FileKind.block disk false) aliases } where
  text := rfl
  next_le := Nat.le_succ _
  kind := fun _ hi => FileSystem.create_kind_of_lt hi
  node := fun _ _ hi => FileSystem.create_node_of_some hi
  node_new := fun p i hi => by
    by_cases hnew : w.fs.node p = none ∧ (p = path ∨ aliases p = true)
    · refine Or.inr ⟨false, ?_⟩
      simp [FileSystem.kindAt, FileSystem.create, hnew]
    · simp only [FileSystem.create, if_neg hnew] at hi
      exact Or.inl hi

/-- Waiting for a partition of the disk makes nothing else appear. -/
lemma step {c : Cmd} (hc : c.WaitsFor device) (hd : w.OnDisk disk device) (o : Oracle) :
    Probed disk w (exec who c o w).2 := by
  cases c with
  | partprobe d =>
      obtain rfl := hc
      obtain ⟨whole, hk⟩ := hd
      have hk' : FileSystem.kindAt { w with now := w.now + o.elapsed }.fs d = _ := hk
      show Probed disk w (World.partprobe { w with now := w.now + o.elapsed } o d)
      rw [World.partprobe]
      split
      · rename_i disk' hkind
        obtain ⟨rfl, -⟩ := FileKind.block.inj (Option.some.inj (hkind.symm.trans hk'))
        split_ifs
        · have hclock : Probed disk' w { w with now := w.now + o.elapsed } := of_fs rfl
          exact hclock.trans (create _ _)
        · exact of_fs rfl
      · exact of_fs rfl
  | pathExists p => exact of_fs rfl
  | uevent => exact of_fs rfl
  | sleep => exact of_fs rfl
  | _ => exact hc.elim

lemma waiting (hd : w.OnDisk disk device) (partition : String) :
    (waitForPartitionNode device partition).wp (exec who) (fun _ => True)
      (fun _ v => Probed disk w v) w := by
  refine (Prog.Keeps.of_allCalls (I := fun v => Probed disk w v) ?_
    (waitForPartitionNode_waits device partition)) w (of_fs rfl)
  intro c o v hc _ hv
  exact hv.trans (step hc (hv.onDisk hd) o)

end Probed

/-! ## What formatting writes to

The functions of the format, from the innermost, with the targets of their writes.
-/

/-- Formatting what is at a path of the disk. -/
lemma formatLuks2Removable_issues {path : String}
    (hflag : w.fs.readSysfs (removablePath device) = some "1")
    (hd : w.OnDisk (parentDeviceName device) path) :
    (formatLuks2Removable path passphrase).Issues (exec none) (WritesRemovable device) w := by
  refine Issues.of_allCalls (I := fun v => v.fs = w.fs) ?_ ?_
    (@formatLuks2Removable_formats path True passphrase fun _ => trivial) rfl
  · intro c o v hc hv
    cases c with
    | format d vk =>
        obtain ⟨luks, hl⟩ := World.format_stored { v with now := v.now + o.elapsed } o d vk
        simpa only [exec, answer, hl] using hv
    | addByKey d vk pw =>
        obtain ⟨luks, hl⟩ := World.update_stored { v with now := v.now + o.elapsed } d o
          fun h => h.addByKey none o vk pw
        simpa only [exec, answer, hl] using hv
    | init d => exact hv
    | cacheInsert d vk => exact hv
    | setMetadataSize => exact hv
    | osRandom n => exact hv
    | _ => exact hc.elim
  · intro c v hc hv t ht
    have hpath : t = path := by
      cases c with
      | format d vk => exact (Option.some.inj ht).symm.trans hc
      | addByKey d vk pw => exact (Option.some.inj ht).symm.trans hc
      | wipefs d => exact hc.elim
      | gptZapAndPartition d => exact hc.elim
      | _ => cases ht
    rw [hpath, World.OnDisk, hv]
    exact ⟨hflag, hd⟩

lemma exec_wipefs_fs (device : String) (o : Oracle) (w : World) :
    (exec none (Cmd.wipefs device) o w).2.fs = w.fs := by
  obtain ⟨luks, hl⟩ := World.write_stored { w with now := w.now + o.elapsed } o device
  simp only [exec, answer, hl]

lemma exec_gptZapAndPartition_fs (device : String) (o : Oracle) (w : World) :
    (exec none (Cmd.gptZapAndPartition device) o w).2.fs = w.fs := exec_wipefs_fs device o w

/-- The condition is enough for the rest of the function. -/
lemma formatDevice_issues {partition : Bool}
    (hflag : w.fs.readSysfs (removablePath device) = some "1")
    (hd : w.OnDisk (parentDeviceName device) device)
    (hfirst : partition = true ∨ (w.fs.pathExists (firstPartitionPath device) = true →
      w.OnDisk (parentDeviceName device) (firstPartitionPath device))) :
    (formatDevice device passphrase partition).Issues (exec none) (WritesRemovable device) w := by
  have hfinish : ∀ {v : World} {t out : String} {word : String → String},
      Probed (parentDeviceName device) w v → v.OnDisk (parentDeviceName device) t →
      (((formatLuks2Removable t passphrase).mapErr word).bind
        fun _ => (Prog.ret out : Op String)).Issues (exec none) (WritesRemovable device) v := by
    intro v t out word hv ht
    refine Issues.bind_of_forall (Prog.issues_mapErr.mpr ?_) fun _ _ => trivial
    exact formatLuks2Removable_issues ((hv.readSysfs _).trans hflag) ht
  have hwrites : ∀ {v : World} {c : Cmd}, Probed (parentDeviceName device) w v →
      c.target = some device → WritesRemovable device c v := by
    intro v c hv hc t ht
    rw [hc] at ht
    cases ht
    exact ⟨(hv.readSysfs _).trans hflag, hv.onDisk hd⟩
  refine (issues_ask_orFail (c := Cmd.wipefs device) (r := id)).mpr
    ⟨hwrites (Probed.of_fs rfl) rfl, fun o _ _ => ?_⟩
  have hv : Probed (parentDeviceName device) w _ := Probed.of_fs (exec_wipefs_fs device o w)
  cases partition with
  | true => exact hfinish hv (hv.onDisk hd)
  | false =>
      refine (issues_ask_orFail (c := Cmd.gptZapAndPartition device) (r := id)).mpr
        ⟨hwrites hv rfl, fun o' _ _ => ?_⟩
      have hv' := hv.trans (Probed.of_fs (exec_gptZapAndPartition_fs device o' _))
      refine Issues.bind ?_ (Prog.wp_mono (fun x u hx => ?_)
        (Prog.wp_and (Probed.waiting (hv'.onDisk hd) (firstPartitionPath device))
          (waitForPartitionNode_answer (firstPartitionPath device) _)))
      · refine Issues.of_allCalls (I := fun _ => True) (fun _ _ _ _ _ => trivial) ?_
          (waitForPartitionNode_waits device (firstPartitionPath device)) trivial
        intro c v hc _
        cases c <;> first | exact writesRemovable_of_target rfl v | exact hc.elim
      · obtain ⟨hu, b, rfl, hb⟩ := hx
        rintro b' ⟨⟩
        cases b with
        | false => trivial
        | true =>
            have hu' := hv'.trans hu
            exact hfinish hu' (hu'.onDisk_of_exists (hfirst.resolve_left (by simp)) hb.symm)

lemma onDisk_of_formatLuks2Removable {path : String} {v : World}
    (hp : (formatLuks2Removable path passphrase).Issues (exec none) (WritesRemovable device) v)
    (hpath : v.fs.pathExists path = true) : v.OnDisk (parentDeviceName device) path := by
  have hinit : ∀ {v' : World}, v'.fs = v.fs →
      (exec none (Cmd.init path) Oracle.quiet v').1 = Except.ok () := by
    intro v' hv'
    simp [exec, answer, hv', hpath, Oracle.quiet, Oracle.unlessFault]
  rw [formatLuks2Removable] at hp
  split_ifs at hp
  · have hsize := ((issues_ask_orFail (c := Cmd.init path) (r := id)).mp
      (hp.2 Oracle.quiet)).2 Oracle.quiet () (hinit rfl)
    exact ((hsize.2 Oracle.quiet).1 path rfl).2
  · have hsize := ((issues_ask_orFail (c := Cmd.init path) (r := id)).mp hp.of_bind).2
      Oracle.quiet () (hinit rfl)
    exact ((hsize.2 Oracle.quiet).1 path rfl).2

/-- The wait may end at once if the node is there: no monitor, and a first look. -/
lemma issues_of_wait {α : Type} {P : Cmd → World → Prop} {partition : String} {f : Bool → Op α}
    {v : World} (hp : ((waitForPartitionNode device partition).bind f).Issues (exec none) P v)
    (hnode : v.fs.pathExists partition = true) : (f true).Issues (exec none) P v := by
  have hfound := (hp.2 Oracle.quiet).2 Oracle.quiet
  change Issues _ _ (Prog.bind (if v.fs.pathExists partition = true then _ else _ : Op Bool) _) _
    at hfound
  rw [if_pos hnode] at hfound
  exact hfound

/-- The condition is also necessary, since nothing need fail. -/
lemma names_of_formatDevice {partition : Bool} {v : World}
    (hp : (formatDevice device passphrase partition).Issues (exec none) (WritesRemovable device) v) :
    v.OnDisk (parentDeviceName device) device
      ∧ (partition = true ∨ (v.fs.pathExists (firstPartitionPath device) = true →
        v.OnDisk (parentDeviceName device) (firstPartitionPath device))) := by
  have hwipe := (issues_ask_orFail (c := Cmd.wipefs device) (r := id)).mp hp
  have hd := (hwipe.1 device rfl).2
  refine ⟨hd, ?_⟩
  cases partition with
  | true => exact Or.inl rfl
  | false =>
      refine Or.inr fun hfirst => ?_
      obtain ⟨whole, hkind⟩ := hd
      obtain ⟨i, hi, -⟩ := Option.map_eq_some_iff.mp hkind
      have hwrite : ∀ {u : World}, u.fs = v.fs →
          (exec none (Cmd.wipefs device) Oracle.quiet u).1 = Except.ok () := by
        intro u hu
        simp [exec, answer, World.write, hu, hi, Oracle.quiet, Oracle.unlessFault]
      have hfs := exec_wipefs_fs device Oracle.quiet v
      have hgpt := (issues_ask_orFail (c := Cmd.gptZapAndPartition device) (r := id)).mp
        (hwipe.2 Oracle.quiet () (hwrite rfl))
      have hfs' := (exec_gptZapAndPartition_fs device Oracle.quiet _).trans hfs
      have hformat := issues_of_wait (hgpt.2 Oracle.quiet () (hwrite hfs)) (by rwa [hfs'])
      have hfirst' := onDisk_of_formatLuks2Removable (Prog.issues_mapErr.mp hformat.of_bind)
        (by rwa [hfs'])
      rwa [World.OnDisk, hfs'] at hfirst'

/-! ## The whole function

The flag is read once, under the name that the path's last part gives.
-/

/-- With the flag set, the rest of the function is reached. -/
lemma issues_of_flag {P : Cmd → World → Prop}
    (hp : (formatRemovablePartition device passphrase).Issues (exec none) P w)
    (hflag : w.fs.readSysfs (removablePath device) = some "1") :
    (formatDevice device passphrase (w.fs.pathExists (partitionPath device))).Issues (exec none) P
      w := by
  have hrest := hp.2 Oracle.quiet
  change Issues _ _ (if decide (w.fs.readSysfs (removablePath device) = some "1") = true then _
    else _ : Op String) _ at hrest
  rw [if_pos (decide_eq_true hflag)] at hrest
  exact hrest.2 Oracle.quiet

/-- **The writes stay on the removable disk exactly if the path is a block of it** and so is what is
already there under the name of its first partition, whatever the file system and sysfs hold. -/
theorem formats_removable_iff_names_its_disk (device passphrase : String) (w : World) :
    FormatsRemovable device passphrase w ↔ NamesItsDisk device w := by
  rw [FormatsRemovable, ← Prog.issues_iff_trace]
  constructor
  · intro hp
    by_cases hflag : w.fs.readSysfs (removablePath device) = some "1"
    · exact Or.inr (names_of_formatDevice (issues_of_flag hp hflag))
    · exact Or.inl hflag
  · intro hnames
    refine ⟨writesRemovable_of_target rfl w, fun o => ?_⟩
    show Issues _ _ (if decide (w.fs.readSysfs (removablePath device) = some "1") = true then _
      else _ : Op String) _
    split_ifs with hflag
    · have hflag' := of_decide_eq_true hflag
      obtain ⟨hd, hfirst⟩ := hnames.resolve_left (not_not_intro hflag')
      exact ⟨writesRemovable_of_target rfl _, fun o' => formatDevice_issues hflag' hd hfirst⟩
    · trivial

/-- A removable disk `sdb`, and a file of that name in a home directory. -/
def borrowedName : World :=
  World.start (FileSystem.ofList [("/dev/sdb", FileKind.block "sdb" true, 0),
    ("/home/u/sdb", FileKind.regular, 1000)] [("/sys/block/sdb/removable", "1\n")]) fun _ => none

/-- The file is overwritten, on the strength of the disk's flag. -/
theorem regular_file_overwritten :
    borrowedName.fs.kindAt "/home/u/sdb" = some FileKind.regular
      ∧ ¬ FormatsRemovable "/home/u/sdb" "" borrowedName := by
  have hkind : borrowedName.fs.kindAt "/home/u/sdb" = some FileKind.regular := by decide +kernel
  refine ⟨hkind, fun hall => ?_⟩
  rw [FormatsRemovable, ← Prog.issues_iff_trace] at hall
  obtain ⟨⟨whole, hblock⟩, -⟩ := names_of_formatDevice (issues_of_flag hall (by decide +kernel))
  rw [hkind] at hblock
  cases hblock

end LuksEnroll
