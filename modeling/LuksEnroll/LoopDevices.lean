import LuksEnroll.Discovery
import LuksEnroll.Teardown
import Mathlib.Data.List.DropRight

/-!
# Finding what lies over a file

`CloseVolumeFd` knows a file by its numbers and has to find the mappings over it.  It reads them off
sysfs: every loop device is asked for the file behind it, and what holds the device or one of its
partitions is in a `holders` directory, as names of block devices, of which those with a `dm` directory
are device-mapper devices.

`Kernel` is what the kernel has, and `LoopView.Shows` how sysfs shows it.  The walk finds exactly the LUKS
devices that were set up over the loop device or over a partition of it (`backed_snapshot_iff`); what
lies over them in turn it does not see.

`close_volume_fd_reaches_kernel` carries this through to the teardown.  Besides `LoopView.Shows` it rests
on two things about the machine:

* a status query is answered as the mapping stands (`execTruthful`), since `mapping_is_active` takes a
  query that fails for a mapping that is not there, and the mapping would be passed over without an error;
* `/proc/mounts` can be read, since a table that cannot be read refuses nothing.

The deactivations themselves, and every other command, may fail in any way.
-/

namespace LuksEnroll

open Library

/-! ## What the service reads

`loopdev.rs`, on the directories and attributes of sysfs and the answers of the status call.
-/

/-- What the service sees of the loop devices: the files and directories of sysfs, and what
`LOOP_GET_STATUS64` answers on a node, nothing where it fails. -/
structure LoopView where
  fs : FileSystem
  readDir : String → Option (List String)
  loopGetStatus64 : String → Option (ℕ × ℕ)

/-- `str::trim_end`. -/
def trimEnd (s : String) : String := String.ofList (s.toList.rdropWhile isWhiteSpace)

namespace LoopView

variable (v : LoopView)

/-- `read_attr`. -/
def readAttr (holder attr : String) : Option String :=
  (v.fs.text ("/sys/class/block/" ++ holder ++ "/dm/" ++ attr)).map trimEnd

/-- The `holders` directories of a device and of its partitions. -/
def holderDirs (devName : String) : List String :=
  let base := "/sys/block/" ++ devName
  (base ++ "/holders") :: (((v.readDir base).getD []).filter (startsWith devName)).map fun part =>
    base ++ "/" ++ part ++ "/holders"

/-- `dm_holders`: the device-mapper devices among the holders. -/
def dmHolders (devName : String) : List DmHolder :=
  (v.holderDirs devName).flatMap fun dir => ((v.readDir dir).getD []).filterMap fun holder => do
    let dmUuid ← v.readAttr holder "uuid"
    let dmName ← v.readAttr holder "name"
    return ⟨dmUuid, dmName⟩

/-- `snapshot_loop_devices`: the attached ones, with what holds them. -/
def snapshotLoopDevices : List LoopSnapshot :=
  (((v.readDir "/sys/block").getD []).filter (startsWith "loop")).filterMap fun devName => do
    let info ← v.loopGetStatus64 ("/dev/" ++ devName)
    return ⟨info.1, info.2, v.dmHolders devName⟩

end LoopView

/-! ## What the kernel has

Loop devices with their files, and device-mapper devices over other devices.
-/

/-- A device-mapper device, and the block devices that it was set up over. -/
structure DmDevice where
  minor : ℕ
  uuid : String
  name : String
  slaves : List String

/-- The name of its node. -/
def DmDevice.node (d : DmDevice) : String := "dm-" ++ toString d.minor

/-- An attached loop device. -/
structure LoopDevice where
  number : ℕ
  backingDev : ℕ
  backingIno : ℕ
  partitions : List ℕ

/-- The name of a loop device. -/
def loopName (n : ℕ) : String := "loop" ++ toString n

/-- The name of a partition of one. -/
def partName (n m : ℕ) : String := loopName n ++ "p" ++ toString m

/-- The device and its partitions, with their directories in sysfs. -/
def LoopDevice.blocks (l : LoopDevice) : List (String × String) :=
  (loopName l.number, "/sys/block/" ++ loopName l.number) :: l.partitions.map fun m =>
    (partName l.number m, "/sys/block/" ++ loopName l.number ++ "/" ++ partName l.number m)

/-- What the kernel has: loop devices, and device-mapper devices over other devices. -/
structure Kernel where
  loops : List LoopDevice
  dms : List DmDevice

/-- A LUKS device was set up over the loop device of this file, or over a partition of it, and has this
name, blanks at its end aside. -/
def Kernel.LuksOver (k : Kernel) (dev ino : ℕ) (name : String) : Prop :=
  ∃ l ∈ k.loops, l.backingDev = dev ∧ l.backingIno = ino ∧ ∃ d ∈ k.dms,
    (∃ b ∈ l.blocks, b.1 ∈ d.slaves) ∧ "CRYPT-LUKS".toList <+: d.uuid.toList ∧ trimEnd d.name = name

/-- **Sysfs shows what the kernel has.** -/
structure LoopView.Shows (v : LoopView) (k : Kernel) : Prop where
  /-- Only loop devices are called like one, attached or not. -/
  block : ∃ names, v.readDir "/sys/block" = some names ∧ (∀ l ∈ k.loops, loopName l.number ∈ names)
    ∧ ∀ x ∈ names, startsWith "loop" x = true → ∃ n, x = loopName n
  /-- The ioctl answers for the attached ones. -/
  status : ∀ n info, v.loopGetStatus64 ("/dev/" ++ loopName n) = some info
    ↔ ∃ l ∈ k.loops, l.number = n ∧ info = (l.backingDev, l.backingIno)
  /-- In the directory of a device only its partitions have names that begin like its own. -/
  partitions : ∀ l ∈ k.loops, ∃ names, v.readDir ("/sys/block/" ++ loopName l.number) = some names
    ∧ (∀ m ∈ l.partitions, partName l.number m ∈ names)
    ∧ ∀ x ∈ names, startsWith (loopName l.number) x = true → ∃ m ∈ l.partitions, x = partName l.number m
  /-- The holders are the device-mapper devices over it, and others, which have no `dm` directory. -/
  holders : ∀ l ∈ k.loops, ∀ b ∈ l.blocks, ∃ names, v.readDir (b.2 ++ "/holders") = some names
    ∧ (∀ d ∈ k.dms, b.1 ∈ d.slaves → d.node ∈ names)
    ∧ ∀ x ∈ names, (∃ d ∈ k.dms, b.1 ∈ d.slaves ∧ x = d.node)
      ∨ ∀ attr, v.fs.text ("/sys/class/block/" ++ x ++ "/dm/" ++ attr) = none
  /-- Attributes end with a line break. -/
  attrs : ∀ d ∈ k.dms, v.fs.text ("/sys/class/block/" ++ d.node ++ "/dm/" ++ "uuid") = some (d.uuid ++ "\n")
    ∧ v.fs.text ("/sys/class/block/" ++ d.node ++ "/dm/" ++ "name") = some (d.name ++ "\n")

/-! ## Texts

An attribute ends in a line break, which the service trims.
-/

/-- What has no blanks begins a text if and only if it begins the text without its last blanks. -/
lemma prefix_rdropWhile {p s : List Char} (hp : ∀ c ∈ p, isWhiteSpace c = false) :
    p <+: s.rdropWhile isWhiteSpace ↔ p <+: s := by
  refine ⟨fun h => h.trans (List.rdropWhile_prefix _ _), fun h => ?_⟩
  induction s using List.reverseRecOn with
  | nil => simpa using h
  | append_singleton s c ih =>
      rcases List.prefix_concat_iff.mp h with rfl | h
      · have hlast : (s ++ [c]).rdropWhile isWhiteSpace = s ++ [c] :=
          List.rdropWhile_concat_neg _ _ _ (by simp [hp c (by simp)])
        exact ⟨[], by rw [List.append_nil, hlast]⟩
      · rw [List.rdropWhile_concat]
        split_ifs
        · exact ih h
        · exact h.trans (List.prefix_append _ _)

/-- A line in sysfs is what it says, without its end. -/
lemma trimEnd_line (s : String) : trimEnd (s ++ "\n") = trimEnd s := by
  rw [trimEnd, trimEnd, String.toList_append]
  exact congrArg String.ofList (List.rdropWhile_concat_pos _ _ _ (by decide))

/-- Blanks at the end do not matter for the beginning. -/
lemma luks_prefix_trimEnd {s : String} :
    "CRYPT-LUKS".toList <+: (trimEnd s).toList ↔ "CRYPT-LUKS".toList <+: s.toList := by
  have hlist : (trimEnd s).toList = s.toList.rdropWhile isWhiteSpace := String.toList_ofList
  rw [hlist]
  have hletters : ("CRYPT-LUKS".toList.all fun c => isWhiteSpace c == false) = true := by decide
  refine prefix_rdropWhile fun c hc => ?_
  simpa using List.all_eq_true.mp hletters c hc

lemma startsWith_append (pre s : String) : startsWith pre (pre ++ s) = true := by
  rw [startsWith, String.toList_append]
  exact List.isPrefixOf_iff_prefix.mpr (List.prefix_append _ _)

/-! ## The walk

What the service finds is what the kernel has, from the directory down to the name.
-/

section Walk

variable {v : LoopView} {k : Kernel} {l : LoopDevice}

/-- The directories that are walked are those of the device and its partitions. -/
lemma LoopView.Shows.mem_holderDirs (hv : v.Shows k) (hl : l ∈ k.loops) {dir : String} :
    dir ∈ v.holderDirs (loopName l.number) ↔ ∃ b ∈ l.blocks, dir = b.2 ++ "/holders" := by
  obtain ⟨names, hnames, hparts, honly⟩ := hv.partitions l hl
  simp only [LoopView.holderDirs, hnames, Option.getD_some, LoopDevice.blocks, List.mem_cons,
    List.mem_map, List.mem_filter, exists_eq_or_imp]
  refine or_congr Iff.rfl ?_
  constructor
  · rintro ⟨x, ⟨hx, hstarts⟩, rfl⟩
    obtain ⟨m, hm, rfl⟩ := honly x hx hstarts
    exact ⟨_, ⟨m, hm, rfl⟩, rfl⟩
  · rintro ⟨b, ⟨m, hm, rfl⟩, rfl⟩
    refine ⟨partName l.number m, ⟨hparts m hm, ?_⟩, rfl⟩
    rw [partName, String.append_assoc]
    exact startsWith_append _ _

/-- What holds a loop device, or a partition of it. -/
lemma LoopView.Shows.mem_dmHolders (hv : v.Shows k) (hl : l ∈ k.loops) {h : DmHolder} :
    h ∈ v.dmHolders (loopName l.number) ↔ ∃ d ∈ k.dms, (∃ b ∈ l.blocks, b.1 ∈ d.slaves)
      ∧ h = ⟨trimEnd d.uuid, trimEnd d.name⟩ := by
  have hattrs : ∀ d ∈ k.dms, ∀ h : DmHolder, (do
      let dmUuid ← v.readAttr d.node "uuid"
      let dmName ← v.readAttr d.node "name"
      return (⟨dmUuid, dmName⟩ : DmHolder)) = some h ↔ h = ⟨trimEnd d.uuid, trimEnd d.name⟩ := by
    intro d hd h
    obtain ⟨huuid, hname⟩ := hv.attrs d hd
    simp [LoopView.readAttr, huuid, hname, trimEnd_line, eq_comm]
  simp only [LoopView.dmHolders, List.mem_flatMap, List.mem_filterMap]
  constructor
  · rintro ⟨dir, hdir, x, hx, hread⟩
    obtain ⟨b, hb, rfl⟩ := (hv.mem_holderDirs hl).mp hdir
    obtain ⟨names, hnames, -, honly⟩ := hv.holders l hl b hb
    rw [hnames, Option.getD_some] at hx
    rcases honly x hx with ⟨d, hd, hslave, rfl⟩ | hnone
    · exact ⟨d, hd, ⟨b, hb, hslave⟩, (hattrs d hd h).mp hread⟩
    · simp [LoopView.readAttr, hnone] at hread
  · rintro ⟨d, hd, ⟨b, hb, hslave⟩, rfl⟩
    obtain ⟨names, hnames, hall, -⟩ := hv.holders l hl b hb
    refine ⟨_, (hv.mem_holderDirs hl).mpr ⟨b, hb, rfl⟩, d.node, ?_, (hattrs d hd _).mpr rfl⟩
    rw [hnames, Option.getD_some]
    exact hall d hd hslave

/-- Every attached loop device is in the snapshot, and nothing else. -/
lemma LoopView.Shows.mem_snapshot (hv : v.Shows k) {s : LoopSnapshot} :
    s ∈ v.snapshotLoopDevices
      ↔ ∃ l ∈ k.loops, s = ⟨l.backingDev, l.backingIno, v.dmHolders (loopName l.number)⟩ := by
  obtain ⟨names, hnames, hall, honly⟩ := hv.block
  simp only [LoopView.snapshotLoopDevices, hnames, Option.getD_some, List.mem_filterMap,
    List.mem_filter, Option.bind_eq_bind, Option.bind_eq_some_iff]
  constructor
  · rintro ⟨x, ⟨hx, hstarts⟩, info, hinfo, hs⟩
    obtain ⟨n, rfl⟩ := honly x hx hstarts
    obtain ⟨l, hl, rfl, rfl⟩ := (hv.status n info).mp hinfo
    exact ⟨l, hl, (Option.some.inj hs).symm⟩
  · rintro ⟨l, hl, rfl⟩
    exact ⟨_, ⟨hall l hl, startsWith_append _ _⟩, _, (hv.status _ _).mpr ⟨l, hl, rfl, rfl⟩, rfl⟩

/-- **The walk finds what the kernel has over the file.** -/
lemma LoopView.Shows.backed_snapshot_iff (hv : v.Shows k) {dev ino : ℕ} {name : String} :
    Backed dev ino v.snapshotLoopDevices name ↔ k.LuksOver dev ino name := by
  constructor
  · rintro ⟨s, hs, hdev, hino, h, hh, huuid, rfl⟩
    obtain ⟨l, hl, rfl⟩ := hv.mem_snapshot.mp hs
    obtain ⟨d, hd, hblocks, rfl⟩ := (hv.mem_dmHolders hl).mp hh
    exact ⟨l, hl, hdev, hino, d, hd, hblocks, luks_prefix_trimEnd.mp huuid, rfl⟩
  · rintro ⟨l, hl, hdev, hino, d, hd, hblocks, huuid, rfl⟩
    exact ⟨_, hv.mem_snapshot.mpr ⟨l, hl, rfl⟩, hdev, hino, _,
      (hv.mem_dmHolders hl).mpr ⟨d, hd, hblocks, rfl⟩, luks_prefix_trimEnd.mpr huuid, rfl⟩

end Walk

/-! ## Closing

The names that are found are those that the teardown takes down.
-/

/-- What closing a file's mappings comes to, by what the kernel has. -/
structure ClosesLuks (k : Kernel) (dev ino : ℕ) (table : List Mount) (w : World)
    (x : Except String (Bool × String × String)) (w' : World) (log : List String) : Prop where
  only : ∀ name ∈ log, k.LuksOver dev ino name ∧ ¬ Mounted w.fs table name
  others : ∀ name, ¬ k.LuksOver dev ino name → w'.mappings name = w.mappings name
  /-- On success nothing of it is left. -/
  success : ∀ closed err, x = Except.ok (true, closed, err) →
    ∀ name, k.LuksOver dev ino name → w'.mappings name = none
  /-- Otherwise the error names one that is there. -/
  failure : ∀ closed err, x = Except.ok (false, closed, err) →
    ∃ name e, err = name ++ ": " ++ e ∧ k.LuksOver dev ino name ∧ w'.mappings name = w.mappings name

/-- **A file is closed down to the kernel.**  For whatever loop devices, partitions, device-mapper devices
and other holders the kernel has, as long as sysfs shows them, whatever mounts there are in a table that
can be read, and whichever commands fail, status queries apart: `CloseVolumeFd` tries to take down only
LUKS devices that were set up over the loop device of the file or over a partition of it and are not
mounted, changes no other mapping, leaves none of them when it reports success, and otherwise names one
that is still there. -/
theorem close_volume_fd_reaches_kernel {v : LoopView} {k : Kernel} (hv : v.Shows k) (dev ino : ℕ)
    {w : World} {table : List Mount}
    (htable : w.fs.text "/proc/mounts" = some (renderMounts table)) (os : ℕ → Oracle) :
    Ends (opCloseVolumeFd dev ino v.snapshotLoopDevices) os w (ClosesLuks k dev ino table w) := by
  have hmem : ∀ name, name ∈ cryptMappingsBackedBy dev ino v.snapshotLoopDevices
      ↔ k.LuksOver dev ino name := fun name =>
    mem_cryptMappingsBackedBy.trans hv.backed_snapshot_iff
  refine (opCloseVolumeFd_ends (deactivateVolumes_tornDown htable _ os)).mono ?_
  rintro x w' log (⟨hdown, rfl⟩ | ⟨e, hdown, rfl⟩)
  · have hmappings := hdown.of_ok.2
    refine ⟨fun name hname => ⟨(hmem name).mp (hdown.log_sublist.subset hname),
      hdown.log_free name hname⟩, fun name hname => ?_, fun closed err _ name hname => ?_,
      fun closed err hx => by simp at hx⟩
    · rw [hmappings, if_neg fun h => hname ((hmem name).mp h)]
    · rw [hmappings, if_pos ((hmem name).mpr hname)]
  · obtain ⟨done, name, rest, cause, hsplit, hmappings, rfl⟩ := hdown.of_error
    have hstrict : (cryptMappingsBackedBy dev ino v.snapshotLoopDevices).Pairwise (· < ·) :=
      sortDedup_strict _
    have hdone : ∀ m ∈ done, m ∈ cryptMappingsBackedBy dev ino v.snapshotLoopDevices := by
      intro m hm
      rw [hsplit]
      exact List.mem_append_left _ hm
    refine ⟨fun m hm => ⟨(hmem m).mp (hdown.log_sublist.subset hm), hdown.log_free m hm⟩,
      fun m hm => ?_, fun closed err hx => by simp at hx, fun closed err hx => ?_⟩
    · rw [hmappings, if_neg fun h => hm ((hmem m).mp (hdone m h))]
    · simp only [Except.ok.injEq, Prod.mk.injEq, true_and] at hx
      refine ⟨name, cause, hx.2.symm, (hmem name).mp (by rw [hsplit]; simp), ?_⟩
      rw [hsplit] at hstrict
      have hnot : name ∉ done := fun h => lt_irrefl _ ((mem_front_iff hstrict name).mp h).2
      rw [hmappings, if_neg hnot]

/-- A file on `/dev/loop0`: a LUKS mapping over its first partition, and a volume group and a RAID over
the device. -/
def partitionedLoop : Kernel where
  loops := [⟨0, 5, 100, [1]⟩]
  dms := [⟨3, "CRYPT-LUKS2-aaaa-luks-a", "luks-a", ["loop0p1"]⟩,
    ⟨4, "LVM-deadbeef", "vg0-lv0", ["loop0"]⟩]

/-- The files of the example. -/
def dmAttributes : List (String × String) :=
  [("/sys/class/block/dm-3/dm/uuid", "CRYPT-LUKS2-aaaa-luks-a\n"),
    ("/sys/class/block/dm-3/dm/name", "luks-a\n"), ("/sys/class/block/dm-4/dm/uuid", "LVM-deadbeef\n"),
    ("/sys/class/block/dm-4/dm/name", "vg0-lv0\n")]

/-- How sysfs shows it. -/
def partitionedView : LoopView where
  fs := FileSystem.ofList [] dmAttributes
  readDir := fun dir =>
    if dir = "/sys/block" then some ["sda", "loop0", "loop1"]
    else if dir = "/sys/block/loop0" then some ["queue", "holders", "loop0p1", "size"]
    else if dir = "/sys/block/loop0/holders" then some ["md127", "dm-4"]
    else if dir = "/sys/block/loop0/loop0p1/holders" then some ["dm-3"]
    else none
  loopGetStatus64 := fun node => if node = "/dev/loop0" then some (5, 100) else none

lemma raid_no_attribute (attr : String) :
    partitionedView.fs.text ("/sys/class/block/" ++ "md127" ++ "/dm/" ++ attr) = none := by
  have hother : ∀ t ∈ dmAttributes, t.1.toList[17]? = some 'd' := by decide
  have hnone : (dmAttributes.find? fun t =>
      decide (t.1 = "/sys/class/block/" ++ "md127" ++ "/dm/" ++ attr)) = none := by
    refine List.find?_eq_none.mpr fun t ht heq => ?_
    have hchar := hother t ht
    rw [of_decide_eq_true heq, String.append_assoc, String.append_assoc, String.toList_append,
      String.toList_append] at hchar
    cases hchar
  exact congrArg (Option.map Prod.snd) hnone

lemma partitionedView_shows : partitionedView.Shows partitionedLoop where
  block := by
    refine ⟨_, rfl, by decide, fun x hx hstarts => ?_⟩
    simp only [List.mem_cons, List.not_mem_nil, or_false] at hx
    rcases hx with rfl | rfl | rfl
    · cases hstarts
    · exact ⟨0, rfl⟩
    · exact ⟨1, rfl⟩
  status := by
    intro n info
    have hnode : "/dev/" ++ loopName n = "/dev/loop0" ↔ 0 = n := by
      constructor
      · intro h
        refine toString_injective ?_
        have hlist := congrArg String.toList h
        simp only [loopName, String.toList_append] at hlist
        exact (String.toList_injective (List.append_cancel_left
          (List.append_cancel_left (hlist.trans (by rfl : _ = "/dev/".toList ++ ("loop".toList
            ++ (toString 0).toList)))))).symm
      · rintro rfl
        rfl
    simp only [partitionedView, partitionedLoop, hnode, List.mem_singleton]
    constructor
    · intro h
      split_ifs at h with hn
      exact ⟨_, rfl, hn, (Option.some.inj h).symm⟩
    · rintro ⟨l, rfl, hn, rfl⟩
      rw [if_pos hn]
  partitions := by
    intro l hl
    obtain rfl := List.mem_singleton.mp hl
    refine ⟨_, rfl, by decide, by decide⟩
  holders := by
    intro l hl b hb
    obtain rfl := List.mem_singleton.mp hl
    simp only [LoopDevice.blocks, List.map_cons, List.map_nil, List.mem_cons, List.not_mem_nil,
      or_false] at hb
    rcases hb with rfl | rfl
    · refine ⟨_, rfl, by decide, fun x hx => ?_⟩
      simp only [List.mem_cons, List.not_mem_nil, or_false] at hx
      rcases hx with rfl | rfl
      · exact Or.inr raid_no_attribute
      · exact Or.inl ⟨⟨4, "LVM-deadbeef", "vg0-lv0", ["loop0"]⟩, by simp [partitionedLoop], by decide⟩
    · refine ⟨_, rfl, by decide, fun x hx => Or.inl ?_⟩
      obtain rfl := List.mem_singleton.mp hx
      exact ⟨⟨3, "CRYPT-LUKS2-aaaa-luks-a", "luks-a", ["loop0p1"]⟩, by simp [partitionedLoop], by decide⟩
  attrs := by decide

/-- The mapping over the partition is active, and so is the volume of the group. -/
def partitionMapped : World :=
  { World.start (FileSystem.ofList [] [("/proc/mounts", renderMounts twoMounts)]) fun _ => none with
    mappings := fun name =>
      if name = "luks-a" ∨ name = "vg0-lv0" then some ⟨0, ⟨[]⟩, 1⟩ else none }

/-- The mapping over the partition is closed, the volume group stays. -/
theorem close_partition_mapping :
    ((opCloseVolumeFd 5 100 partitionedView.snapshotLoopDevices).run execTruthful
        (fun _ => Oracle.quiet) partitionMapped).1 = Except.ok (true, "luks-a", "")
      ∧ Ends (opCloseVolumeFd 5 100 partitionedView.snapshotLoopDevices) (fun _ => Oracle.quiet)
        partitionMapped (ClosesLuks partitionedLoop 5 100 twoMounts partitionMapped) :=
  ⟨by decide +kernel, close_volume_fd_reaches_kernel partitionedView_shows 5 100
    (by simp [partitionMapped, World.start, FileSystem.ofList]) _⟩

end LuksEnroll
