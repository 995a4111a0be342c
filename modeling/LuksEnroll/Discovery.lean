import LuksEnroll.Library.Dict
import LuksEnroll.Library.Events
import LuksEnroll.Methods
import Mathlib.Data.List.Sort

/-!
# Which volumes are found, and what the list offers

The service finds volumes in two ways: it resolves the sources of `/etc/crypttab`, and it probes every
block device that is not virtual.  Removable disks are listed apart, with their partitions, and the
client takes what is on them out of the first list, so that a volume has one row.

`volume_row_iff` says for every block device in which libblkid finds LUKS which row it has, and when it
has none.  Three kinds of volumes come off badly:

* a removable disk without partitions has a row of its own, which is taken for an empty disk: a volume
  directly on the disk is detected, is taken out of the internal volumes, and the only thing the list
  offers for it is to encrypt the disk;
* a volume on a loop, ram or zram device is not looked for, and has a row only if `/etc/crypttab` names
  the device;
* a device that was opened as an image file is taken out of the internal volumes like one, and gets no
  row as an image, since it is no regular file.

The theorem rests on how the kernel names devices (`Machine.KernelNamed`), and on a client that resolves a
device path as the service does and knows a block device from a regular file.

Rows are tracked by key and removed by key before new ones are shown.  The keys are distinct, so no
row survives the data it was made from: `shown_rows_current`.
-/

namespace LuksEnroll

open Library

/-! ## The service

`devices.rs` on a machine: what the kernel has in `/sys`, what libblkid reads, and `/etc/crypttab`.
-/

/-- What the service sees of a machine. -/
structure Machine where
  fs : FileSystem
  probe : Probe
  /-- `std::fs::read_dir`: the names, in any order. -/
  readDir : String → Option (List String)

/-- A partition, as `partition_json` has it. -/
structure RemovablePartition where
  device : String
  sizeBytes : ℕ
  label : String
  encrypted : Bool

/-- A removable disk, as `device_json` has it. -/
structure RemovableDevice where
  device : String
  partitions : List RemovablePartition
  sizeBytes : ℕ
  label : String

/-- `starts_with`. -/
def startsWith (pre name : String) : Bool := pre.toList.isPrefixOf name.toList

/-- `is_virtual_block_name`. -/
def isVirtualBlockName (name : String) : Bool :=
  startsWith "loop" name || startsWith "ram" name || startsWith "zram" name

/-- `seen.insert` and `found.push`. -/
def pushUnseen (found : List String) (dev : String) : List String :=
  if dev ∈ found then found else found ++ [dev]

namespace Machine

variable (m : Machine)

/-- `sorted_dir_names`: nothing, for a directory that cannot be read. -/
def sortedDirNames (dir : String) : List String :=
  ((m.readDir dir).getD []).insertionSort (· ≤ ·)

/-- `sysfs_size_bytes`: sectors of 512 bytes, multiplied in 64 bits. -/
def sysfsSizeBytes (path : String) : ℕ :=
  match (m.fs.readSysfs path).bind parseU64 with
  | some sectors => sectors * 512 % 18446744073709551616
  | none => 0

/-- `blkid_tag`: what libblkid reads at a device. -/
def blkidTag (device tag : String) : Option String := m.probe.blkidTag m.fs device tag

/-- All block devices, by their kernel names. -/
def allBlockNames : List String := m.sortedDirNames "/sys/class/block"

/-- The block devices in `/dev` that are not virtual. -/
def blockNames : List String := m.allBlockNames.filter fun name => !isVirtualBlockName name

/-- `find_luks_block_devices`: those in which libblkid finds LUKS. -/
def findLuksBlockDevices : List String :=
  (m.blockNames.map ("/dev/" ++ ·)).filter fun dev =>
    decide (m.blkidTag dev "TYPE" = some "crypto_LUKS")

/-- The path of a source in `/etc/crypttab`; joining an absolute path replaces the directory. -/
def crypttabPath (src : String) : String :=
  if startsWith "UUID=" src then
    let uuid := String.ofList (src.toList.drop 5)
    if startsWith "/" uuid then uuid else "/dev/disk/by-uuid/" ++ uuid
  else src

/-- One line of `/etc/crypttab`. -/
def crypttabLine (line : List Char) : Option String :=
  let line := trim (String.ofList line)
  if line = "" || startsWith "#" line then none
  else match splitWhitespace line.toList with
    | _ :: src :: _ =>
        let path := crypttabPath src
        if m.fs.pathExists path then some (m.fs.cacheKey path) else none
    | _ => none

/-- `crypttab_devices`. -/
def crypttabDevices : List String :=
  match m.fs.text "/etc/crypttab" with
  | none => []
  | some content => ((splitChar '\n' content.toList).filterMap m.crypttabLine).foldl pushUnseen []

/-- `detect_luks_devices`. -/
def detectLuksDevices : List String :=
  (m.findLuksBlockDevices.map m.fs.cacheKey).foldl pushUnseen m.crypttabDevices

/-- The partitions of a disk: its directory has them under names that begin with its own. -/
def partitionNames (disk : String) : List String :=
  (m.sortedDirNames ("/sys/block/" ++ disk)).filter (startsWith disk)

/-- A partition of a removable disk, as the list is told of it. -/
def removablePartition (disk entry : String) : RemovablePartition where
  device := "/dev/" ++ entry
  sizeBytes := m.sysfsSizeBytes ("/sys/block/" ++ disk ++ "/" ++ entry ++ "/size")
  label := (m.blkidTag ("/dev/" ++ entry) "LABEL").getD ""
  encrypted := decide ("/dev/" ++ entry ∈ m.findLuksBlockDevices)

/-- The disks whose removable flag is set. -/
def removableDisks : List String :=
  ((m.sortedDirNames "/sys/block").filter fun name => !isVirtualBlockName name).filter fun name =>
    decide (m.fs.readSysfs ("/sys/block/" ++ name ++ "/removable") = some "1")

/-- A removable disk with its partitions. -/
def removableDevice (disk : String) : RemovableDevice where
  device := "/dev/" ++ disk
  partitions := (m.partitionNames disk).map (m.removablePartition disk)
  sizeBytes := m.sysfsSizeBytes ("/sys/block/" ++ disk ++ "/size")
  label := (m.blkidTag ("/dev/" ++ disk) "LABEL").getD ""

/-- `detect_removable_devices`. -/
def detectRemovableDevices : List RemovableDevice := m.removableDisks.map m.removableDevice

/-- **Kernel names**: every disk and every partition has a name of its own, also under `/dev`, where
it is no symbolic link. -/
structure Named : Prop where
  distinct : (m.removableDisks ++ m.removableDisks.flatMap m.partitionNames).Nodup
  node : ∀ name, name ∈ m.blockNames ∨ name ∈ m.removableDisks
    ∨ name ∈ m.removableDisks.flatMap m.partitionNames →
      m.fs.canonicalize ("/dev/" ++ name) = some ("/dev/" ++ name)

/-- The same of the virtual devices; and a partition is named after its disk, so that those of a disk
that is not virtual are not virtual either. -/
structure KernelNamed : Prop extends Named m where
  devices : ∀ name ∈ m.allBlockNames, m.fs.canonicalize ("/dev/" ++ name) = some ("/dev/" ++ name)
  partitions : ∀ disk ∈ m.removableDisks, ∀ name ∈ m.partitionNames disk,
    isVirtualBlockName name = false

end Machine

/-! ## The client

The list from the two answers: groups, rows, and what a row offers when it is clicked.
-/

/-- The groups of the list. -/
inductive RowGroup : Type
  | internal
  | removable
  | file
  deriving DecidableEq

/-- What activating a row, or pressing the button in it, leads to. -/
inductive RowAction : Type
  | detail
  | encrypt
  | reformat
  | none
  deriving DecidableEq

/-- A row: its key, its path, and what it offers. -/
structure ListRow where
  group : RowGroup
  key : String
  path : String
  action : RowAction
  sensitive : Bool
  deriving DecidableEq

/-- What the client asks of the file system, and who it runs as. -/
structure ClientFs where
  /-- `os.path.realpath`. -/
  realpath : String → String
  /-- `os.path.exists` and `os.path.isfile`. -/
  pathExists : String → Bool
  isfile : String → Bool
  /-- The owner of what is there. -/
  owner : String → Option ℕ
  callerUid : ℕ

/-- `_needs_elevation`. -/
def ClientFs.needsElevation (env : ClientFs) (path : String) : Bool :=
  !(env.isfile (env.realpath path) && decide (env.owner (env.realpath path) = some env.callerUid))

/-- The data of one refresh. -/
structure ListData where
  devices : List String
  removable : List RemovableDevice
  reformattable : List String

/-- The paths that are not internal volumes. -/
def ListData.exclude (env : ClientFs) (imageFiles : List String) (data : ListData) : List String :=
  (imageFiles.filter env.pathExists).map env.realpath
    ++ data.removable.flatMap fun rdev =>
        env.realpath rdev.device :: rdev.partitions.map fun part => env.realpath part.device

section Rows

variable (env : ClientFs) (elevated : Bool) (data : ListData)

/-- The lock of `_apply_lock_state`. -/
def unlocked (path : String) : Bool := elevated || !env.needsElevation path

/-- The row of an internal volume. -/
def internalRow (dev : String) : ListRow :=
  ⟨RowGroup.internal, "int:" ++ dev, dev, RowAction.detail, unlocked env elevated dev⟩

/-- The row of a removable partition. -/
def partitionRow (part : RemovablePartition) : ListRow :=
  ⟨RowGroup.removable, "rem:" ++ part.device, part.device,
    if part.encrypted && !decide (part.device ∈ data.reformattable) then RowAction.detail
    else RowAction.encrypt,
    unlocked env elevated part.device⟩

/-- The row of a disk without partitions. -/
def diskRow (rdev : RemovableDevice) : ListRow :=
  if rdev.sizeBytes = 0 then
    ⟨RowGroup.removable, "rem:" ++ rdev.device, rdev.device, RowAction.none, false⟩
  else
    ⟨RowGroup.removable, "rem:" ++ rdev.device, rdev.device, RowAction.encrypt,
      unlocked env elevated rdev.device⟩

/-- The rows of a removable disk: its partitions, or the disk itself if it has none. -/
def removableRows (rdev : RemovableDevice) : List ListRow :=
  if rdev.partitions = [] then [diskRow env elevated rdev]
  else rdev.partitions.map (partitionRow env elevated data)

/-- The row of an image file. -/
def imageRow (path : String) : ListRow :=
  ⟨RowGroup.file, "img:" ++ path, path,
    if path ∈ data.reformattable then RowAction.reformat else RowAction.detail, true⟩

/-- The internal volumes of `_apply_populate`. -/
def internalDevices (imageFiles : List String) : List String :=
  data.devices.filter fun d => !decide (env.realpath d ∈ data.exclude env imageFiles)

/-- The row that says that there is nothing. -/
def hintRow : ListRow := ⟨RowGroup.internal, "no-devices-hint", "", RowAction.none, true⟩

/-- The rows of `_apply_populate`, in the order in which they are added. -/
def listRows (imageFiles : List String) : List ListRow :=
  (if internalDevices env data imageFiles = [] ∧ data.removable = [] then [hintRow] else [])
    ++ (internalDevices env data imageFiles).map (internalRow env elevated)
    ++ data.removable.flatMap (removableRows env elevated data)
    ++ (imageFiles.filter env.isfile).map (imageRow data)

end Rows

/-! ## The row of a volume

What becomes of one block device with LUKS on it, going through the kinds of devices in the order in
which the service looks at them.
-/

/-- What is pushed is what was there and what came. -/
lemma mem_foldl_pushUnseen {found devs : List String} {d : String} :
    d ∈ devs.foldl pushUnseen found ↔ d ∈ found ∨ d ∈ devs := by
  induction devs generalizing found with
  | nil => simp
  | cons dev devs ih =>
      rw [List.foldl_cons, ih, pushUnseen]
      split_ifs with hdev
      · rw [List.mem_cons, ← or_assoc, or_congr_left]
        exact (or_iff_left_of_imp fun h => h ▸ hdev).symm
      · rw [List.mem_append, List.mem_singleton, List.mem_cons, or_assoc]

lemma nodup_foldl_pushUnseen {found : List String} (h : found.Nodup) (devs : List String) :
    (devs.foldl pushUnseen found).Nodup := by
  induction devs generalizing found with
  | nil => exact h
  | cons dev devs ih =>
      rw [List.foldl_cons]
      refine ih ?_
      rw [pushUnseen]
      split_ifs with hdev
      · exact h
      · exact List.nodup_append.mpr ⟨h, List.nodup_singleton dev, by
          rintro a ha b hb rfl
          exact hdev (List.mem_singleton.mp hb ▸ ha)⟩

lemma dev_inj {a b : String} : "/dev/" ++ a = "/dev/" ++ b ↔ a = b := by
  constructor
  · intro h
    have hlist := congrArg String.toList h
    rw [String.toList_append, String.toList_append] at hlist
    exact String.toList_inj.mp (List.append_cancel_left hlist)
  · rintro rfl
    rfl

namespace Machine

variable {m : Machine}

lemma detectLuksDevices_nodup (m : Machine) : m.detectLuksDevices.Nodup := by
  refine nodup_foldl_pushUnseen ?_ _
  rw [crypttabDevices]
  split
  · exact List.nodup_nil
  · exact nodup_foldl_pushUnseen List.nodup_nil _

/-- A block device with a LUKS signature is found, unless it is virtual. -/
lemma mem_findLuksBlockDevices {name : String} (hname : name ∈ m.allBlockNames)
    (hluks : m.blkidTag ("/dev/" ++ name) "TYPE" = some "crypto_LUKS") :
    "/dev/" ++ name ∈ m.findLuksBlockDevices ↔ isVirtualBlockName name = false := by
  rw [findLuksBlockDevices, List.mem_filter, List.mem_map, blockNames]
  constructor
  · rintro ⟨⟨name', hname', heq⟩, -⟩
    obtain rfl : name' = name := dev_inj.mp heq
    simpa using (List.mem_filter.mp hname').2
  · intro hvirtual
    refine ⟨⟨name, List.mem_filter.mpr ⟨hname, ?_⟩, rfl⟩, decide_eq_true hluks⟩
    simp [hvirtual]

/-- It is detected, under its own name, unless it is virtual and not in `/etc/crypttab`. -/
lemma mem_detectLuksDevices (hm : m.KernelNamed) {name : String} (hname : name ∈ m.allBlockNames)
    (hluks : m.blkidTag ("/dev/" ++ name) "TYPE" = some "crypto_LUKS") :
    "/dev/" ++ name ∈ m.detectLuksDevices ↔
      isVirtualBlockName name = false ∨ "/dev/" ++ name ∈ m.crypttabDevices := by
  have hcanonical : ∀ name' ∈ m.allBlockNames, m.fs.cacheKey ("/dev/" ++ name') = "/dev/" ++ name' := by
    intro name' hname'
    rw [FileSystem.cacheKey, hm.devices name' hname', Option.getD_some]
  rw [detectLuksDevices, mem_foldl_pushUnseen, or_comm, ← m.mem_findLuksBlockDevices hname hluks]
  refine or_congr_left ?_
  rw [List.mem_map]
  constructor
  · rintro ⟨dev, hdev, heq⟩
    -- what was probed has a kernel name, and leads nowhere else
    obtain ⟨name', hname', rfl⟩ := List.mem_map.mp (List.mem_filter.mp hdev).1
    rw [hcanonical name' (List.mem_filter.mp hname').1] at heq
    exact heq ▸ hdev
  · intro hfound
    exact ⟨_, hfound, hcanonical name hname⟩

end Machine

/-- **The row of a volume**: among the internal volumes, unless the volume is on a removable disk, or on a
virtual device that `/etc/crypttab` does not name, or was opened as an image; as a partition of a removable
disk; or as such a disk, which then counts as one without partitions.  What none of these fits has no
row. -/
inductive VolumeRow (m : Machine) (env : ClientFs) (elevated : Bool)
    (reformattable imageFiles : List String) (name : String) : ListRow → Prop
  | internal (hdetected : isVirtualBlockName name = false ∨ "/dev/" ++ name ∈ m.crypttabDevices)
      (himages : ∀ img ∈ imageFiles, env.pathExists img = true → env.realpath img ≠ "/dev/" ++ name)
      (hdisk : name ∉ m.removableDisks)
      (hpart : ∀ disk ∈ m.removableDisks, name ∉ m.partitionNames disk) :
      VolumeRow m env elevated reformattable imageFiles name
        ⟨RowGroup.internal, "int:" ++ ("/dev/" ++ name), "/dev/" ++ name, RowAction.detail,
          unlocked env elevated ("/dev/" ++ name)⟩
  | partition (disk : String) (hdisk : disk ∈ m.removableDisks) (hpart : name ∈ m.partitionNames disk) :
      VolumeRow m env elevated reformattable imageFiles name
        ⟨RowGroup.removable, "rem:" ++ ("/dev/" ++ name), "/dev/" ++ name,
          if "/dev/" ++ name ∈ reformattable then RowAction.encrypt else RowAction.detail,
          unlocked env elevated ("/dev/" ++ name)⟩
  | disk (hdisk : name ∈ m.removableDisks) (hempty : m.partitionNames name = [])
      (hsize : m.sysfsSizeBytes ("/sys/block/" ++ name ++ "/size") ≠ 0) :
      VolumeRow m env elevated reformattable imageFiles name
        ⟨RowGroup.removable, "rem:" ++ ("/dev/" ++ name), "/dev/" ++ name, RowAction.encrypt,
          unlocked env elevated ("/dev/" ++ name)⟩
  | emptyDisk (hdisk : name ∈ m.removableDisks) (hempty : m.partitionNames name = [])
      (hsize : m.sysfsSizeBytes ("/sys/block/" ++ name ++ "/size") = 0) :
      VolumeRow m env elevated reformattable imageFiles name
        ⟨RowGroup.removable, "rem:" ++ ("/dev/" ++ name), "/dev/" ++ name, RowAction.none, false⟩

section Volumes

variable {m : Machine} {env : ClientFs} {elevated : Bool} {imageFiles : List String} {name : String}

/-- What the service answers when it is asked for both lists. -/
def Machine.listData (m : Machine) (reformattable : List String) : ListData :=
  ⟨m.detectLuksDevices, m.detectRemovableDevices, reformattable⟩

/-- What is on removable disks is no internal volume, and what was opened as an image is none. -/
lemma mem_exclude_iff (reformattable : List String) (hm : m.Named)
    (hreal : ∀ p q, m.fs.canonicalize p = some q → env.realpath p = q) :
    "/dev/" ++ name ∈ (m.listData reformattable).exclude env imageFiles ↔
      (∃ img ∈ imageFiles, env.pathExists img = true ∧ env.realpath img = "/dev/" ++ name)
        ∨ name ∈ m.removableDisks ∨ ∃ disk ∈ m.removableDisks, name ∈ m.partitionNames disk := by
  have hdisk : ∀ disk ∈ m.removableDisks, env.realpath ("/dev/" ++ disk) = "/dev/" ++ disk :=
    fun disk hd => hreal _ _ (hm.node disk (Or.inr (Or.inl hd)))
  have hpart : ∀ disk ∈ m.removableDisks, ∀ entry ∈ m.partitionNames disk,
      env.realpath ("/dev/" ++ entry) = "/dev/" ++ entry := fun disk hd entry he =>
    hreal _ _ (hm.node entry (Or.inr (Or.inr (List.mem_flatMap.mpr ⟨disk, hd, he⟩))))
  rw [ListData.exclude, List.mem_append]
  refine or_congr ?_ ?_
  · rw [List.mem_map]
    constructor
    · rintro ⟨img, hmem, himg⟩
      obtain ⟨hmem, hexists⟩ := List.mem_filter.mp hmem
      exact ⟨img, hmem, hexists, himg⟩
    · rintro ⟨img, hmem, hexists, himg⟩
      exact ⟨img, List.mem_filter.mpr ⟨hmem, hexists⟩, himg⟩
  · constructor
    · intro hrem
      obtain ⟨rdev, hrdev, hmem⟩ := List.mem_flatMap.mp hrem
      obtain ⟨disk, hd, rfl⟩ := List.mem_map.mp hrdev
      rcases List.mem_cons.mp hmem with heq | hmem
      · refine Or.inl ?_
        rw [show (m.removableDevice disk).device = "/dev/" ++ disk from rfl, hdisk disk hd, dev_inj]
          at heq
        exact heq ▸ hd
      · obtain ⟨part, hp, heq⟩ := List.mem_map.mp hmem
        obtain ⟨entry, he, rfl⟩ := List.mem_map.mp hp
        rw [show (m.removablePartition disk entry).device = "/dev/" ++ entry from rfl,
          hpart disk hd entry he, dev_inj] at heq
        exact Or.inr ⟨disk, hd, heq ▸ he⟩
    · rintro (hd | ⟨disk, hd, he⟩)
      · exact List.mem_flatMap.mpr ⟨_, List.mem_map_of_mem hd,
          List.mem_cons.mpr (Or.inl (hdisk name hd).symm)⟩
      · exact List.mem_flatMap.mpr ⟨_, List.mem_map_of_mem hd, List.mem_cons_of_mem _
          (List.mem_map.mpr ⟨_, List.mem_map_of_mem he, hpart disk hd name he⟩)⟩

lemma mem_internalRows {data : ListData} {dev : String} {r : ListRow} :
    (r ∈ (internalDevices env data imageFiles).map (internalRow env elevated) ∧ r.path = dev) ↔
      dev ∈ data.devices ∧ env.realpath dev ∉ data.exclude env imageFiles
        ∧ r = internalRow env elevated dev := by
  rw [List.mem_map]
  constructor
  · rintro ⟨⟨d, hd, rfl⟩, rfl⟩
    obtain ⟨hmem, hout⟩ := List.mem_filter.mp hd
    have hd : env.realpath d ∉ data.exclude env imageFiles := by simpa using hout
    exact ⟨hmem, hd, rfl⟩
  · rintro ⟨hmem, hout, rfl⟩
    exact ⟨⟨dev, List.mem_filter.mpr ⟨hmem, by simpa using hout⟩, rfl⟩, rfl⟩

/-- The rows of the removable disks, at the path of a volume. -/
lemma mem_removableRows {reformattable : List String} {r : ListRow} :
    (r ∈ m.detectRemovableDevices.flatMap
          (removableRows env elevated (m.listData reformattable)) ∧ r.path = "/dev/" ++ name) ↔
      (name ∈ m.removableDisks ∧ m.partitionNames name = []
        ∧ r = diskRow env elevated (m.removableDevice name))
      ∨ ∃ disk ∈ m.removableDisks, name ∈ m.partitionNames disk
        ∧ r = partitionRow env elevated (m.listData reformattable) (m.removablePartition disk name) := by
  have hpath : ∀ rdev, (diskRow env elevated rdev).path = rdev.device := by
    intro rdev
    rw [diskRow]
    split_ifs <;> rfl
  have hrows : ∀ disk, removableRows env elevated (m.listData reformattable) (m.removableDevice disk)
      = if m.partitionNames disk = [] then [diskRow env elevated (m.removableDevice disk)]
        else (m.partitionNames disk).map fun entry =>
          partitionRow env elevated (m.listData reformattable) (m.removablePartition disk entry) := by
    intro disk
    rw [removableRows]
    simp only [Machine.removableDevice, List.map_eq_nil_iff, List.map_map]
    rfl
  rw [Machine.detectRemovableDevices, List.flatMap_map]
  constructor
  · rintro ⟨hr, hdev⟩
    obtain ⟨disk, hdisk, hr⟩ := List.mem_flatMap.mp hr
    rw [hrows] at hr
    split_ifs at hr with hempty
    · obtain rfl := List.mem_singleton.mp hr
      rw [hpath, show (m.removableDevice disk).device = "/dev/" ++ disk from rfl, dev_inj] at hdev
      subst hdev
      exact Or.inl ⟨hdisk, hempty, rfl⟩
    · obtain ⟨entry, hentry, rfl⟩ := List.mem_map.mp hr
      obtain rfl : entry = name := dev_inj.mp hdev
      exact Or.inr ⟨disk, hdisk, hentry, rfl⟩
  · rintro (⟨hdisk, hempty, rfl⟩ | ⟨disk, hdisk, hentry, rfl⟩)
    · refine ⟨List.mem_flatMap.mpr ⟨name, hdisk, ?_⟩, hpath _⟩
      rw [hrows, if_pos hempty]
      exact List.mem_singleton_self _
    · refine ⟨List.mem_flatMap.mpr ⟨disk, hdisk, ?_⟩, rfl⟩
      rw [hrows, if_neg (List.ne_nil_of_mem hentry)]
      exact List.mem_map_of_mem hentry

/-- The rows at the path of a block device: neither the hint nor an image file has this path. -/
lemma mem_listRows_at {reformattable : List String} {r : ListRow}
    (hblock : env.isfile ("/dev/" ++ name) = false) :
    (r ∈ listRows env elevated (m.listData reformattable) imageFiles ∧ r.path = "/dev/" ++ name) ↔
      (r ∈ (internalDevices env (m.listData reformattable) imageFiles).map (internalRow env elevated)
        ∧ r.path = "/dev/" ++ name)
      ∨ (r ∈ m.detectRemovableDevices.flatMap
          (removableRows env elevated (m.listData reformattable)) ∧ r.path = "/dev/" ++ name) := by
  rw [listRows, List.mem_append, List.mem_append, List.mem_append]
  constructor
  · rintro ⟨((hhint | hint) | hrem) | himg, hpath⟩
    · exfalso
      split_ifs at hhint
      · obtain rfl := List.mem_singleton.mp hhint
        have hlen := congrArg String.length (show "" = "/dev/" ++ name from hpath)
        rw [String.length_append, show "/dev/".length = 5 from rfl, show "".length = 0 from rfl] at hlen
        omega
      · cases hhint
    · exact Or.inl ⟨hint, hpath⟩
    · exact Or.inr ⟨hrem, hpath⟩
    · exfalso
      obtain ⟨img, hmem, rfl⟩ := List.mem_map.mp himg
      obtain ⟨-, hisfile⟩ := List.mem_filter.mp hmem
      obtain rfl : img = "/dev/" ++ name := hpath
      rw [hblock] at hisfile
      cases hisfile
  · rintro (⟨hint, hpath⟩ | ⟨hrem, hpath⟩)
    · exact ⟨Or.inl (Or.inl (Or.inr hint)), hpath⟩
    · exact ⟨Or.inl (Or.inr hrem), hpath⟩

/-- The row of a partition with LUKS on it. -/
lemma partitionRow_encrypted {reformattable : List String} {disk : String}
    (hencrypted : (m.removablePartition disk name).encrypted = true) :
    partitionRow env elevated (m.listData reformattable) (m.removablePartition disk name)
      = ⟨RowGroup.removable, "rem:" ++ ("/dev/" ++ name), "/dev/" ++ name,
          if "/dev/" ++ name ∈ reformattable then RowAction.encrypt else RowAction.detail,
          unlocked env elevated ("/dev/" ++ name)⟩ := by
  rw [partitionRow, hencrypted]
  by_cases hre : "/dev/" ++ name ∈ reformattable
  · simp [Machine.removablePartition, Machine.listData, hre]
  · simp [Machine.removablePartition, Machine.listData, hre]

/-- **Every volume has the one row that is due to it**, and no other: for every block device in which
libblkid finds LUKS, on a machine whose devices are named as the kernel names them, and a client that
resolves paths as the service does and sees that a block device is no regular file. -/
theorem volume_row_iff {reformattable : List String} (hm : m.KernelNamed)
    (hreal : ∀ p q, m.fs.canonicalize p = some q → env.realpath p = q)
    (hblock : env.isfile ("/dev/" ++ name) = false) (hname : name ∈ m.allBlockNames)
    (hluks : m.blkidTag ("/dev/" ++ name) "TYPE" = some "crypto_LUKS") (r : ListRow) :
    (r ∈ listRows env elevated (m.listData reformattable) imageFiles ∧ r.path = "/dev/" ++ name)
      ↔ VolumeRow m env elevated reformattable imageFiles name r := by
  have hfound := m.mem_findLuksBlockDevices hname hluks
  have hdetected : "/dev/" ++ name ∈ (m.listData reformattable).devices ↔
      isVirtualBlockName name = false ∨ "/dev/" ++ name ∈ m.crypttabDevices :=
    m.mem_detectLuksDevices hm hname hluks
  have hnode : env.realpath ("/dev/" ++ name) = "/dev/" ++ name :=
    hreal _ _ (hm.devices name hname)
  have hexclude := @mem_exclude_iff m env imageFiles name reformattable hm.toNamed hreal
  have hpartition : ∀ disk ∈ m.removableDisks, name ∈ m.partitionNames disk →
      partitionRow env elevated (m.listData reformattable) (m.removablePartition disk name)
        = ⟨RowGroup.removable, "rem:" ++ ("/dev/" ++ name), "/dev/" ++ name,
            if "/dev/" ++ name ∈ reformattable then RowAction.encrypt else RowAction.detail,
            unlocked env elevated ("/dev/" ++ name)⟩ := fun disk hdisk hpart =>
    partitionRow_encrypted (decide_eq_true (hfound.mpr (hm.partitions disk hdisk name hpart)))
  rw [mem_listRows_at hblock, mem_internalRows, mem_removableRows, hnode, hexclude, hdetected]
  constructor
  · rintro (⟨hdev, hout, rfl⟩ | ⟨hdisk, hempty, rfl⟩ | ⟨disk, hdisk, hpart, rfl⟩)
    · rw [not_or, not_or] at hout
      refine VolumeRow.internal hdev (fun img hmem hexists himg => ?_) hout.2.1
        fun disk hdisk hpart => hout.2.2 ⟨disk, hdisk, hpart⟩
      exact hout.1 ⟨img, hmem, hexists, himg⟩
    · rw [diskRow]
      split_ifs with hsize
      · exact VolumeRow.emptyDisk hdisk hempty hsize
      · exact VolumeRow.disk hdisk hempty hsize
    · rw [hpartition disk hdisk hpart]
      exact VolumeRow.partition disk hdisk hpart
  · intro hrow
    cases hrow with
    | internal hdev himages hdisk hpart =>
        refine Or.inl ⟨hdev, ?_, rfl⟩
        rintro (⟨img, hmem, hexists, himg⟩ | h | ⟨disk, hd, hp⟩)
        · exact himages img hmem hexists himg
        · exact hdisk h
        · exact hpart disk hd hp
    | partition disk hdisk hpart =>
        exact Or.inr (Or.inr ⟨disk, hdisk, hpart, (hpartition disk hdisk hpart).symm⟩)
    | disk hdisk hempty hsize =>
        refine Or.inr (Or.inl ⟨hdisk, hempty, ?_⟩)
        rw [diskRow, if_neg (show ¬(m.removableDevice name).sizeBytes = 0 from hsize)]
        rfl
    | emptyDisk hdisk hempty hsize =>
        refine Or.inr (Or.inl ⟨hdisk, hempty, ?_⟩)
        rw [diskRow, if_pos (show (m.removableDevice name).sizeBytes = 0 from hsize)]
        rfl

end Volumes

/-- An internal volume, a stick with one on its partition, and a stick that is a volume itself. -/
def twoSticks : Machine where
  fs := FileSystem.ofList
    [("/dev/sda2", FileKind.block "sda" false, 0), ("/dev/sdb", FileKind.block "sdb" true, 0),
      ("/dev/sdb1", FileKind.block "sdb" false, 0), ("/dev/sdc", FileKind.block "sdc" true, 0),
      ("/dev/loop0", FileKind.block "loop0" true, 0)]
    [("/sys/block/sda/removable", "0\n"), ("/sys/block/sdb/removable", "1\n"),
      ("/sys/block/sdc/removable", "1\n"), ("/sys/block/sdc/size", "4096\n")]
  probe := ⟨fun _ => 0, fun i tag => if i ≠ 1 ∧ tag = "TYPE" then some "crypto_LUKS" else none, toString⟩
  readDir dir :=
    if dir = "/sys/class/block" then some ["sdc", "sda2", "sdb", "loop0", "sdb1"]
    else if dir = "/sys/block" then some ["sdb", "loop0", "sda", "sdc"]
    else if dir = "/sys/block/sdb" then some ["sdb1", "size"]
    else none

/-- A machine with two sticks, whose names are those of the kernel. -/
lemma twoSticks_named : twoSticks.KernelNamed where
  distinct := by decide +kernel
  node := by
    have hblock : twoSticks.blockNames = ["sda2", "sdb", "sdb1", "sdc"] := by decide +kernel
    have hdisks : twoSticks.removableDisks = ["sdb", "sdc"] := by decide +kernel
    have hparts : ["sdb", "sdc"].flatMap twoSticks.partitionNames = ["sdb1"] := by decide +kernel
    intro name hname
    rw [hblock, hdisks, hparts] at hname
    have hcases : name = "sda2" ∨ name = "sdb" ∨ name = "sdb1" ∨ name = "sdc" := by
      simp only [List.mem_cons, List.not_mem_nil, or_false] at hname
      tauto
    rcases hcases with rfl | rfl | rfl | rfl
    all_goals decide +kernel
  devices := by decide +kernel
  partitions := by decide +kernel

/-- A client that finds nothing of its own. -/
def strangerFs : ClientFs where
  realpath := id
  pathExists _ := false
  isfile _ := false
  owner _ := none
  callerUid := 1000

/-- It resolves the paths of the machine as the service does. -/
lemma strangerFs_realpath (p q : String) (hq : twoSticks.fs.canonicalize p = some q) :
    strangerFs.realpath p = q := by
  have hsplit : (if _ then some p else none) = some q := hq
  split_ifs at hsplit
  exact Option.some.inj hsplit

/-- The volume on the second stick can only be encrypted again. -/
theorem whole_stick_row : ∃ r,
    (r ∈ listRows strangerFs true (twoSticks.listData []) [] ∧ r.path = "/dev/" ++ "sdc")
      ∧ r.action = RowAction.encrypt := by
  refine ⟨_, (@volume_row_iff twoSticks strangerFs true [] "sdc" [] twoSticks_named
    strangerFs_realpath rfl ?_ ?_ _).mpr (VolumeRow.disk ?_ ?_ ?_), rfl⟩
  all_goals decide +kernel

/-! ## Rows that stay

Every row has a key made of its group and its path.  The keys of one list are distinct.
-/

/-- The keys of the rows on a removable disk. -/
lemma removableRows_keys (env : ClientFs) (elevated : Bool) (data : ListData) (rdev : RemovableDevice) :
    (removableRows env elevated data rdev).map ListRow.key
      = (if rdev.partitions = [] then [rdev.device]
          else rdev.partitions.map RemovablePartition.device).map ("rem:" ++ ·) := by
  rw [removableRows]
  split_ifs
  · rw [diskRow]
    split_ifs <;> rfl
  · rw [List.map_map, List.map_map]
    rfl

/-- What is listed has names of its own. -/
structure ListData.Named (data : ListData) : Prop where
  devices : data.devices.Nodup
  removable : (data.removable.flatMap fun rdev => if rdev.partitions = [] then [rdev.device]
    else rdev.partitions.map RemovablePartition.device).Nodup

/-- The answers of the service are such, also when they were given at different times. -/
lemma listData_named (m m' : Machine) (hm : m'.Named) (reformattable : List String) :
    ListData.Named ⟨m.detectLuksDevices, m'.detectRemovableDevices, reformattable⟩ where
  devices := m.detectLuksDevices_nodup
  removable := by
    obtain ⟨hdisks, hparts, hdisjoint⟩ := List.nodup_append.mp hm.distinct
    rw [List.nodup_flatMap] at hparts
    have hnames : (m'.removableDisks.flatMap fun disk =>
        if m'.partitionNames disk = [] then [disk] else m'.partitionNames disk).Nodup := by
      rw [List.nodup_flatMap]
      refine ⟨fun disk hdisk => ?_, ?_⟩
      · split_ifs
        · exact List.nodup_singleton disk
        · exact hparts.1 disk hdisk
      · refine (hdisks.and hparts.2).imp_of_mem fun {a b} ha hb hab => ?_
        obtain ⟨hne, hdisj⟩ := hab
        show List.Disjoint (if _ then _ else _) (if _ then _ else _)
        intro x hxa hxb
        split_ifs at hxa hxb with hna hnb
        · exact hne ((List.mem_singleton.mp hxa).symm.trans (List.mem_singleton.mp hxb))
        · obtain rfl := List.mem_singleton.mp hxa
          exact hdisjoint x ha x (List.mem_flatMap.mpr ⟨b, hb, hxb⟩) rfl
        · obtain rfl := List.mem_singleton.mp hxb
          exact hdisjoint x hb x (List.mem_flatMap.mpr ⟨a, ha, hxa⟩) rfl
        · exact hdisj hxa hxb
    have hdevices : (m'.detectRemovableDevices.flatMap fun rdev =>
        if rdev.partitions = [] then [rdev.device]
        else rdev.partitions.map RemovablePartition.device)
          = (m'.removableDisks.flatMap fun disk =>
            if m'.partitionNames disk = [] then [disk] else m'.partitionNames disk).map ("/dev/" ++ ·) := by
      rw [Machine.detectRemovableDevices, List.flatMap_map, List.map_flatMap]
      refine congrArg (fun f => List.flatMap f m'.removableDisks) (funext fun disk => ?_)
      simp only [Machine.removableDevice, List.map_eq_nil_iff, List.map_map]
      split_ifs <;> rfl
    show (m'.detectRemovableDevices.flatMap _).Nodup
    rw [hdevices]
    exact hnames.map fun a b hab => dev_inj.mp hab

lemma tagged_inj {p q a b : String} (hlen : p.toList.length = q.toList.length) :
    p ++ a = q ++ b ↔ p = q ∧ a = b := by
  constructor
  · intro h
    have hlist := congrArg String.toList h
    rw [String.toList_append, String.toList_append] at hlist
    obtain ⟨hp, ha⟩ := List.append_inj hlist hlen
    exact ⟨String.toList_inj.mp hp, String.toList_inj.mp ha⟩
  · rintro ⟨rfl, rfl⟩
    rfl

/-- Keys under one tag, and none of them under another. -/
lemma nodup_tagged {p : String} {xs : List String} (h : xs.Nodup) : (xs.map (p ++ ·)).Nodup :=
  h.map fun _ _ hab => ((tagged_inj rfl).mp hab).2

/-- Tags of one length that differ keep the keys apart. -/
lemma disjoint_tagged {p q : String} (hlen : p.toList.length = q.toList.length) (hne : p ≠ q)
    {xs ys : List String} : ∀ a ∈ xs.map (p ++ ·), ∀ b ∈ ys.map (q ++ ·), a ≠ b := by
  intro a ha b hb hab
  obtain ⟨x, -, rfl⟩ := List.mem_map.mp ha
  obtain ⟨y, -, rfl⟩ := List.mem_map.mp hb
  exact hne ((tagged_inj hlen).mp hab).1

/-- **The keys are distinct.** -/
lemma listRows_keys_nodup (env : ClientFs) (elevated : Bool) {data : ListData} (hdata : data.Named)
    {imageFiles : List String} (himages : imageFiles.Nodup) :
    ((listRows env elevated data imageFiles).map ListRow.key).Nodup := by
  have hremovable : (data.removable.flatMap (removableRows env elevated data)).map ListRow.key
      = (data.removable.flatMap fun rdev => if rdev.partitions = [] then [rdev.device]
          else rdev.partitions.map RemovablePartition.device).map ("rem:" ++ ·) := by
    rw [List.map_flatMap, List.map_flatMap]
    exact congrArg (fun f => List.flatMap f data.removable)
      (funext (removableRows_keys env elevated data))
  have hhint : (if internalDevices env data imageFiles = [] ∧ data.removable = [] then [hintRow]
      else []).map ListRow.key
        = (if internalDevices env data imageFiles = [] ∧ data.removable = [] then ["evices-hint"]
          else []).map ("no-d" ++ ·) := by
    split_ifs <;> rfl
  have hinternal : ((internalDevices env data imageFiles).map (internalRow env elevated)).map
      ListRow.key = (internalDevices env data imageFiles).map ("int:" ++ ·) := by
    rw [List.map_map]
    rfl
  have himage : ((imageFiles.filter env.isfile).map (imageRow data)).map ListRow.key
      = (imageFiles.filter env.isfile).map ("img:" ++ ·) := by
    rw [List.map_map]
    rfl
  rw [listRows, List.map_append, List.map_append, List.map_append, hhint, hinternal, hremovable,
    himage]
  have hhints : (if internalDevices env data imageFiles = [] ∧ data.removable = [] then
      ["evices-hint"] else []).Nodup := by
    split_ifs
    · exact List.nodup_singleton _
    · exact List.nodup_nil
  refine List.nodup_append.mpr ⟨List.nodup_append.mpr ⟨List.nodup_append.mpr
    ⟨nodup_tagged hhints, nodup_tagged (hdata.devices.filter _),
      @disjoint_tagged "no-d" "int:" (by decide) (by decide) _ _⟩,
    nodup_tagged hdata.removable, ?_⟩, nodup_tagged (himages.filter _), ?_⟩
  · intro a ha
    rcases List.mem_append.mp ha with ha | ha
    · exact @disjoint_tagged "no-d" "rem:" (by decide) (by decide) _ _ a ha
    · exact @disjoint_tagged "int:" "rem:" (by decide) (by decide) _ _ a ha
  · intro a ha
    rcases List.mem_append.mp ha with ha | ha
    · rcases List.mem_append.mp ha with ha | ha
      · exact @disjoint_tagged "no-d" "img:" (by decide) (by decide) _ _ a ha
      · exact @disjoint_tagged "int:" "img:" (by decide) (by decide) _ _ a ha
    · exact @disjoint_tagged "rem:" "img:" (by decide) (by decide) _ _ a ha

/-! ## The page

The page shows rows, tracks them by key, and clears what it tracks before it shows new ones.
-/

/-- `DeviceListPage`, as far as its rows go. -/
structure ListPage where
  imageFiles : List String
  elevated : Bool
  /-- The rows in the three groups, in the order in which they were added. -/
  shown : List (ℕ × ListRow)
  dynamicRows : Dict String ℕ
  nextRow : ℕ
  /-- Ghost: what the last refresh listed. -/
  listed : List ListRow

namespace ListPage

/-- `_clear_dynamic_rows`. -/
def clearDynamicRows (p : ListPage) : ListPage :=
  { p with
    shown := p.shown.filter fun x => !decide (x.1 ∈ p.dynamicRows.entries.map Prod.snd)
    dynamicRows := ∅ }

/-- `_add_row`. -/
def addRow (p : ListPage) (row : ListRow) : ListPage :=
  { p with
    shown := p.shown ++ [(p.nextRow, row)]
    dynamicRows := p.dynamicRows.set row.key p.nextRow
    nextRow := p.nextRow + 1 }

/-- `_apply_populate`, on an error or on data. -/
def applyPopulate (p : ListPage) (env : ClientFs) : Option ListData → ListPage
  | none => { p.clearDynamicRows with listed := [] }
  | some data =>
      let rows := listRows env p.elevated data p.imageFiles
      { rows.foldl addRow p.clearDynamicRows with listed := rows }

/-- `_add_image_file`: an image is remembered, once. -/
def addImageFile (p : ListPage) (path : String) : ListPage :=
  if path ∈ p.imageFiles then p else { p with imageFiles := p.imageFiles ++ [path] }

/-- `_on_open_image_response`, if a file was chosen. -/
def openImage (p : ListPage) (path : String) : ListPage :=
  if path = "" then p else p.addImageFile path

/-- `_on_remove_image`. -/
def removeImage (p : ListPage) (path : String) : ListPage :=
  if path ∈ p.imageFiles then { p with imageFiles := p.imageFiles.erase path } else p

/-- `_on_auth_finish`. -/
def authFinished (p : ListPage) (ok : Bool) : ListPage := if ok then { p with elevated := true } else p

/-- The list before anything was found. -/
def new : ListPage where
  imageFiles := []
  elevated := false
  shown := []
  dynamicRows := ∅
  nextRow := 0
  listed := []

end ListPage

/-- What can happen to the list.  A refresh that was begun ends in `populated`, with whatever the
service had answered and however many others were begun meanwhile. -/
inductive ListEvent : Type
  | populated (env : ClientFs) (data : Option ListData)
  | addImageFile (path : String)
  | openImage (path : String)
  | removeImage (path : String)
  | authFinished (ok : Bool)

namespace ListPage

/-- One step of the page. -/
def step (p : ListPage) : ListEvent → ListPage
  | ListEvent.populated env data => p.applyPopulate env data
  | ListEvent.addImageFile path => p.addImageFile path
  | ListEvent.openImage path => p.openImage path
  | ListEvent.removeImage path => p.removeImage path
  | ListEvent.authFinished ok => p.authFinished ok

/-- The data is what the service answered, about the machine at two times. -/
def FromService (_ : ListPage) : ListEvent → Prop
  | ListEvent.populated _ (some data) => ∃ m m' : Machine, m'.Named ∧
      data.devices = m.detectLuksDevices ∧ data.removable = m'.detectRemovableDevices
  | _ => True

/-- **The invariant**: every row that is shown is tracked. -/
structure Tracked (p : ListPage) : Prop where
  images : p.imageFiles.Nodup
  tracked : p.dynamicRows.entries = p.shown.map fun x => (x.2.key, x.1)
  listed : p.shown.map Prod.snd = p.listed

/-- Clearing takes off the rows that are tracked, and these are all there are. -/
lemma clearDynamicRows_shown {p : ListPage} (hp : p.Tracked) : p.clearDynamicRows.shown = [] := by
  show p.shown.filter _ = []
  rw [List.filter_eq_nil_iff]
  intro x hx
  have hmem : x.1 ∈ p.dynamicRows.entries.map Prod.snd := by
    rw [hp.tracked, List.map_map]
    exact List.mem_map_of_mem hx
  simp [hmem]

/-- Rows with distinct keys are added and tracked. -/
lemma foldl_addRow {rows : List ListRow} {p : ListPage}
    (htracked : p.dynamicRows.entries = p.shown.map fun x => (x.2.key, x.1))
    (hkeys : (p.shown.map (fun x => x.2.key) ++ rows.map ListRow.key).Nodup) :
    let q := rows.foldl addRow p
    q.dynamicRows.entries = (q.shown.map fun x => (x.2.key, x.1))
      ∧ q.shown.map Prod.snd = p.shown.map Prod.snd ++ rows ∧ q.imageFiles = p.imageFiles := by
  induction rows generalizing p with
  | nil => exact ⟨htracked, (List.append_nil _).symm, rfl⟩
  | cons row rows ih =>
      have hkey : row.key ∉ p.dynamicRows.entries.map Prod.fst := by
        rw [htracked, List.map_map]
        exact fun hmem => (List.nodup_append.mp hkeys).2.2 _ hmem _ List.mem_cons_self rfl
      have hset : (p.addRow row).dynamicRows.entries
          = (p.addRow row).shown.map fun x => (x.2.key, x.1) := by
        show Dict.setEntry row.key p.nextRow p.dynamicRows.entries = _
        rw [Dict.setEntry_of_not_mem hkey, htracked]
        simp [addRow]
      obtain ⟨hentries, hshown, himages⟩ := @ih (p.addRow row) hset (by simpa [addRow] using hkeys)
      refine ⟨hentries, ?_, himages⟩
      rw [List.foldl_cons, hshown]
      simp [addRow]

lemma Tracked.addImageFile {p : ListPage} (hp : p.Tracked) (path : String) :
    (p.addImageFile path).Tracked := by
  rw [ListPage.addImageFile]
  split_ifs with hpath
  · exact hp
  · refine { hp with images := List.nodup_append.mpr ⟨hp.images, List.nodup_singleton path, ?_⟩ }
    rintro a ha b hb rfl
    exact hpath (List.mem_singleton.mp hb ▸ ha)

lemma tracked_step {p : ListPage} (hp : p.Tracked) {e : ListEvent} (he : p.FromService e) :
    (p.step e).Tracked := by
  cases e with
  | populated env data =>
      have hshown := clearDynamicRows_shown hp
      cases data with
      | none =>
          refine ⟨hp.images, ?_, ?_⟩
          · show [] = p.clearDynamicRows.shown.map _
            rw [hshown]
            rfl
          · show p.clearDynamicRows.shown.map _ = []
            rw [hshown]
            rfl
      | some data =>
          obtain ⟨m, m', hm, hdevices, hremovable⟩ := he
          have hnamed : data.Named := by
            have h := listData_named m m' hm data.reformattable
            rw [← hdevices, ← hremovable] at h
            exact h
          have hkeys := listRows_keys_nodup env p.elevated hnamed hp.images
          obtain ⟨hentries, hrows, himages⟩ := @foldl_addRow
            (listRows env p.elevated data p.imageFiles) p.clearDynamicRows (by rw [hshown]; rfl)
            (by rw [hshown]; exact hkeys)
          exact ⟨himages.symm ▸ hp.images, hentries, by rw [hshown] at hrows; exact hrows⟩
  | addImageFile path => exact hp.addImageFile path
  | openImage path =>
      show (p.openImage path).Tracked
      rw [openImage]
      split_ifs
      · exact hp
      · exact hp.addImageFile path
  | removeImage path =>
      show (p.removeImage path).Tracked
      rw [removeImage]
      split_ifs
      · exact { hp with images := hp.images.erase path }
      · exact hp
  | authFinished ok =>
      show (p.authFinished ok).Tracked
      rw [authFinished]
      split_ifs
      · exact { hp with }
      · exact hp

/-- **What is shown is what was listed last.**  In every run, with refreshes that overtake each other,
devices that come and go between the two questions of a refresh, and images that are opened and
removed meanwhile, no row is left from an earlier refresh and none is missing. -/
theorem shown_rows_current {events : List ListEvent}
    (hservice : Events.Along step FromService new events) :
    (Events.run step new events).shown.map Prod.snd = (Events.run step new events).listed
      ∧ (Events.run step new events).imageFiles.Nodup := by
  have htracked := Events.run_invariant (I := Tracked) (fun _ _ hp he => tracked_step hp he)
    (⟨List.nodup_nil, rfl, rfl⟩ : new.Tracked) hservice
  exact ⟨htracked.listed, htracked.images⟩

/-- A refresh, another one after an image was opened, and one that fails. -/
def threeRefreshes : List ListEvent :=
  [ListEvent.populated strangerFs (some (twoSticks.listData [])), ListEvent.openImage "/home/u/a.img",
    ListEvent.authFinished true, ListEvent.populated strangerFs (some (twoSticks.listData [])),
    ListEvent.removeImage "/home/u/a.img", ListEvent.populated strangerFs none]

/-- Three refreshes, with an image opened and removed and a refresh without an answer. -/
theorem threeRefreshes_current :
    (Events.run step new threeRefreshes).shown.map Prod.snd
        = (Events.run step new threeRefreshes).listed
      ∧ (Events.run step new threeRefreshes).imageFiles.Nodup := by
  have hdata : ∀ p, FromService p (ListEvent.populated strangerFs (some (twoSticks.listData []))) :=
    fun _ => ⟨twoSticks, twoSticks, twoSticks_named.toNamed, rfl, rfl⟩
  exact shown_rows_current ⟨hdata _, trivial, trivial, hdata _, trivial, trivial, trivial⟩

end ListPage

end LuksEnroll
