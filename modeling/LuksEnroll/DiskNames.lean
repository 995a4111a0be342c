import LuksEnroll.Format
import LuksEnroll.Library.Scanning
import LuksEnroll.Service

/-!
# Names of disks and partitions

The kernel names a partition after its disk: the disk's name, a `p` if that name ends in a digit, and
the number.  The service goes back from a partition to its disk by two patterns, and forward from a
disk to its first partition by a third.

They agree with the kernel on the disks whose names are letters only and on NVMe namespaces, and on no
other (`names_agree_iff`).  `mmcblk0p1` fits neither pattern, which is the quirk that
`parent_device_name` documents, and `mmcblk0` reads like a partition of `mmcblk`.

`NvmeName` and `LettersName` are the two patterns as predicates on a name, and each function of the
source is shown to read exactly those names.  The kernel's side is `kernelPartition`; `NamesAgree`
compares the two for all partitions of a disk.
-/

namespace LuksEnroll

open Library
open Prog (AllCalls)

/-! ## What the kernel does

The name of a partition, as the kernel makes it: a `p` comes in between when the disk's name ends in
a digit.
-/

/-- Does the name end in a digit? -/
def endsInDigit (name : List Char) : Bool := (name.getLast?.map Char.isDigit).getD false

/-- The kernel's name of partition `n` of a disk. -/
def kernelPartition (disk : String) (n : ℕ) : String :=
  disk ++ (if endsInDigit disk.toList then "p" else "") ++ toString n

/-- The node that appears when the kernel reads a new partition table is that of partition 1. -/
lemma firstPartition_eq (disk : String) :
    World.firstPartition disk = "/dev/" ++ kernelPartition disk 1 := by
  rw [World.firstPartition, kernelPartition, String.append_assoc, String.append_assoc, endsInDigit]
  split_ifs <;> rfl

/-! ## The patterns

The two kinds of names that the service knows, and that its functions find exactly these.
-/

/-- `nvme[0-9]+n[0-9]+`. -/
def NvmeName (cs : List Char) : Prop :=
  ∃ ctrl ns, cs = "nvme".toList ++ ctrl ++ 'n' :: ns ∧ Digits ctrl ∧ Digits ns

/-- `[a-z]+`. -/
def LettersName (cs : List Char) : Prop := cs ≠ [] ∧ ∀ c ∈ cs, c.isLower = true

/-- The disk is read off the front of a name, whatever follows that is no digit. -/
lemma nvmeDisk_append {disk rest : List Char} (hdisk : NvmeName disk)
    (hrest : ∀ c ∈ rest.head?, c.isDigit = false) : nvmeDisk (disk ++ rest) = some (disk, rest) := by
  obtain ⟨ctrl, ns, rfl, hctrl, hns⟩ := hdisk
  have hname : "nvme".toList ++ ctrl ++ 'n' :: ns ++ rest
      = 'n' :: 'v' :: 'm' :: 'e' :: (ctrl ++ 'n' :: (ns ++ rest)) := by simp
  have hfront : spanDigits (ctrl ++ 'n' :: (ns ++ rest)) = (ctrl, 'n' :: (ns ++ rest)) :=
    span_append hctrl.2 (by simp)
  have hback : spanDigits (ns ++ rest) = (ns, rest) := span_append hns.2 hrest
  rw [hname]
  simp [nvmeDisk, hfront, hback, hctrl.1, hns.1]

/-- What is read off the front is the name of a namespace. -/
lemma nvmeDisk_eq {cs disk rest : List Char} (h : nvmeDisk cs = some (disk, rest)) :
    cs = disk ++ rest ∧ NvmeName disk := by
  rw [nvmeDisk.eq_def] at h
  split at h
  · rename_i tail
    split at h
    · rename_i ctrl tail' hctrl
      obtain ⟨rfl, hdigits⟩ := span_eq hctrl
      obtain ⟨ns, rest', htail⟩ : ∃ ns rest', spanDigits tail' = (ns, rest') := ⟨_, _, rfl⟩
      obtain ⟨rfl, hns⟩ := span_eq htail
      rw [htail] at h
      simp only at h
      split_ifs at h with hne
      simp only [Option.some.injEq, Prod.mk.injEq] at h
      obtain ⟨rfl, rfl⟩ := h
      exact ⟨by simp, _, _, rfl, ⟨hne.1, hdigits⟩, hne.2, hns⟩
    · cases h
  · cases h

/-- The letters of a namespace end where the number of its controller starts. -/
lemma span_nvme {disk rest : List Char} (hdisk : NvmeName disk) :
    ∃ tail, (disk ++ rest).span Char.isLower = ("nvme".toList, tail) ∧ 'n' ∈ tail := by
  obtain ⟨ctrl, ns, rfl, hctrl, -⟩ := hdisk
  have hhead : ∀ c ∈ (ctrl ++ 'n' :: (ns ++ rest)).head?, c.isLower = false := by
    intro c hc
    obtain ⟨d, ds, rfl⟩ := List.exists_cons_of_ne_nil hctrl.1
    obtain rfl : d = c := by simpa using hc
    exact isLower_of_isDigit (hctrl.2 d (by simp))
  refine ⟨ctrl ++ 'n' :: (ns ++ rest), ?_, by simp⟩
  have hnvme : ∀ c ∈ "nvme".toList, c.isLower = true := List.all_eq_true.mp rfl
  rw [← span_append hnvme hhead]
  simp

/-- A name of letters, with or without digits after it, is not that of a namespace. -/
lemma nvmeDisk_letters {letters ds : List Char} (hletters : ∀ c ∈ letters, c.isLower = true)
    (hds : ∀ c ∈ ds, c.isDigit = true) : nvmeDisk (letters ++ ds) = none := by
  cases hnvme : nvmeDisk (letters ++ ds) with
  | none => rfl
  | some r =>
      obtain ⟨heq, hdisk⟩ := nvmeDisk_eq hnvme
      obtain ⟨tail, hspan, hn⟩ : ∃ tail, (r.1 ++ r.2).span Char.isLower = ("nvme".toList, tail)
          ∧ 'n' ∈ tail := span_nvme hdisk
      have hhead : ∀ c ∈ ds.head?, c.isLower = false := fun c hc =>
        isLower_of_isDigit (hds c (List.mem_of_mem_head? hc))
      rw [← heq, span_append hletters hhead, Prod.mk.injEq] at hspan
      rw [← hspan.2] at hn
      exact absurd (hds _ hn) (by decide)

/-- The pattern for whole disks is that of namespaces. -/
lemma isNvmeWholeDisk_iff {name : String} : isNvmeWholeDisk name = true ↔ NvmeName name.toList := by
  rw [isNvmeWholeDisk.eq_def]
  constructor
  · intro h
    split at h
    · rename_i disk rest hdisk
      obtain ⟨heq, hname⟩ := nvmeDisk_eq hdisk
      obtain rfl := of_decide_eq_true h
      rw [heq, List.append_nil]
      exact hname
    · cases h
  · intro h
    have hdisk : nvmeDisk (name.toList ++ []) = some (name.toList, []) := nvmeDisk_append h (by simp)
    rw [List.append_nil] at hdisk
    rw [hdisk]
    rfl

/-! ## Parents

From a partition to its disk, in both patterns, and only for partitions.
-/

/-- A partition of a namespace gives the namespace. -/
lemma nvmePartitionParent_partition {name : String} {disk ds : List Char} (hdisk : NvmeName disk)
    (hds : Digits ds) (hname : name.toList = disk ++ 'p' :: ds) :
    nvmePartitionParent name = some (String.ofList disk) := by
  have hnvme : nvmeDisk name.toList = some (disk, 'p' :: ds) := by
    rw [hname]
    exact nvmeDisk_append hdisk (by simp)
  have hspan : spanDigits ds = (ds, []) := span_all hds.2
  simp [nvmePartitionParent, hnvme, hspan, hds.1]

lemma nvmePartitionParent_disk {name : String} (hdisk : NvmeName name.toList) :
    nvmePartitionParent name = none := by
  have hnvme : nvmeDisk (name.toList ++ []) = some (name.toList, []) := nvmeDisk_append hdisk (by simp)
  rw [List.append_nil] at hnvme
  simp [nvmePartitionParent, hnvme]

/-- The first pattern fits partitions of namespaces only. -/
lemma nvmePartitionParent_eq {name parent : String} (h : nvmePartitionParent name = some parent) :
    NvmeName parent.toList ∧ ∃ ds, Digits ds ∧ name.toList = parent.toList ++ 'p' :: ds := by
  rw [nvmePartitionParent.eq_def] at h
  split at h
  · rename_i disk rest hnvme
    obtain ⟨hname, hdisk⟩ := nvmeDisk_eq hnvme
    obtain ⟨part, rest', hspan⟩ : ∃ part rest', spanDigits rest = (part, rest') := ⟨_, _, rfl⟩
    obtain ⟨rfl, hpart⟩ := span_eq hspan
    simp only [hspan] at h
    split_ifs at h with hne
    obtain ⟨hne, rfl⟩ := hne
    obtain rfl := Option.some.inj h
    rw [String.toList_ofList]
    exact ⟨hdisk, part, ⟨hne, hpart⟩, by rw [hname, List.append_nil]⟩
  · cases h

lemma lettersThenDigitsParent_partition {name : String} {letters ds : List Char}
    (hletters : LettersName letters) (hds : Digits ds) (hname : name.toList = letters ++ ds) :
    lettersThenDigitsParent name = some (String.ofList letters) := by
  have hhead : ∀ c ∈ ds.head?, c.isLower = false := fun c hc =>
    isLower_of_isDigit (hds.2 c (List.mem_of_mem_head? hc))
  have hspan := span_append hletters.2 hhead
  have hall : ds.all Char.isDigit = true := List.all_eq_true.mpr hds.2
  rw [lettersThenDigitsParent, hname, hspan]
  simp only [ne_eq, hletters.1, not_false_eq_true, hds.1, hall, and_self, if_true]

lemma lettersThenDigitsParent_letters {name : String} (hname : LettersName name.toList) :
    lettersThenDigitsParent name = none := by
  rw [lettersThenDigitsParent, span_all hname.2]
  simp

/-- The name of a namespace does not fit the second pattern. -/
lemma lettersThenDigitsParent_nvme {name : String} {rest : List Char} {disk : List Char}
    (hdisk : NvmeName disk) (hname : name.toList = disk ++ rest) :
    lettersThenDigitsParent name = none := by
  obtain ⟨tail, hspan, hn⟩ : ∃ tail, (disk ++ rest).span Char.isLower = ("nvme".toList, tail)
      ∧ 'n' ∈ tail := span_nvme hdisk
  have hall : tail.all Char.isDigit = false := by
    rw [List.all_eq_false]
    exact ⟨'n', hn, by decide⟩
  rw [lettersThenDigitsParent, hname, hspan]
  simp [hall]

/-- The second pattern fits letters and digits only. -/
lemma lettersThenDigitsParent_eq {name parent : String}
    (h : lettersThenDigitsParent name = some parent) :
    LettersName parent.toList ∧ ∃ ds, Digits ds ∧ name.toList = parent.toList ++ ds := by
  rw [lettersThenDigitsParent] at h
  obtain ⟨letters, rest, hspan⟩ : ∃ letters rest, name.toList.span Char.isLower = (letters, rest) :=
    ⟨_, _, rfl⟩
  obtain ⟨hname, hletters⟩ := span_eq hspan
  rw [hspan] at h
  simp only at h
  split_ifs at h with hne
  obtain rfl := Option.some.inj h
  rw [String.toList_ofList]
  exact ⟨⟨hne.1, hletters⟩, rest, ⟨hne.2.1, List.all_eq_true.mp hne.2.2⟩, hname⟩

lemma basename_of_notMem {name : String} (hname : '/' ∉ name.toList) : basename name = name := by
  rw [basename, splitChar_of_notMem hname]
  simp

/-- The last part of a path in `/dev` is the name. -/
lemma basename_dev {name : String} (hname : '/' ∉ name.toList) : basename ("/dev/" ++ name) = name := by
  have hsplit : splitChar '/' ("/dev/" ++ name).toList = [[], "dev".toList, name.toList] := by
    rw [String.toList_append]
    show splitChar '/' ([] ++ '/' :: ("dev".toList ++ '/' :: name.toList)) = _
    rw [splitChar_append (by simp), splitChar_append (by decide), splitChar_of_notMem hname]
  rw [basename, hsplit]
  simp

lemma slash_notMem_basename (device : String) : '/' ∉ (basename device).toList := by
  rw [basename, String.toList_ofList]
  cases hlast : (splitChar '/' device.toList).getLast? with
  | none => simp [List.getLastD_eq_getLast?, hlast]
  | some seg =>
      rw [List.getLastD_eq_getLast?, hlast]
      exact notMem_of_mem_splitChar (List.mem_of_getLast? hlast)

/-- The parent of a name has no slash either. -/
lemma slash_notMem_parent (device : String) : '/' ∉ (parentDeviceName device).toList := by
  have hletters : ∀ cs : List Char, LettersName cs → '/' ∉ cs := by
    intro cs hcs h
    exact absurd (hcs.2 _ h) (by decide)
  have hdigits : ∀ cs : List Char, Digits cs → '/' ∉ cs := by
    intro cs hcs h
    exact absurd (hcs.2 _ h) (by decide)
  rw [parentDeviceName]
  cases hnvme : nvmePartitionParent (basename device) with
  | some parent =>
      obtain ⟨ctrl, ns, hparent, hctrl, hns⟩ := (nvmePartitionParent_eq hnvme).1
      simp [hparent, hdigits _ hctrl, hdigits _ hns]
  | none =>
      cases hparent : lettersThenDigitsParent (basename device) with
      | some parent => exact hletters _ (lettersThenDigitsParent_eq hparent).1
      | none => exact slash_notMem_basename device

/-! ## Agreement

Both ways at once, for all partitions of a disk.  A disk whose name is in neither pattern disagrees
at its first partition already.
-/

/-- Waiting for, formatting and caching the key of what is at `path`. -/
def Cmd.AtPartition (path : String) : Cmd → Prop
  | Cmd.pathExists p => p = path
  | Cmd.init p => p = path
  | Cmd.format p _ => p = path
  | Cmd.addByKey p _ _ => p = path
  | Cmd.cacheInsert p _ => p = path
  | _ => True

/-- The service and the kernel agree on the disk and all its partitions: a disk is its own parent, it
is the parent of its partitions, and what is waited for and formatted when the whole disk is
formatted is its first partition. -/
structure NamesAgree (disk : String) : Prop where
  parent_disk : parentDeviceName disk = disk
  parent_partition : ∀ n, 1 ≤ n → parentDeviceName (kernelPartition disk n) = disk
  first_path : firstPartitionPath ("/dev/" ++ disk) = "/dev/" ++ kernelPartition disk 1
  /-- The node that appears after the partition table is read again is the one waited for. -/
  first_node : World.firstPartition disk = firstPartitionPath ("/dev/" ++ disk)
  first_formatted : ∀ passphrase, (formatDevice ("/dev/" ++ disk) passphrase false).AllCalls
    (Cmd.AtPartition ("/dev/" ++ kernelPartition disk 1))

/-- Waiting for the node asks for the partition, and for nothing else. -/
lemma pollForNode_atPartition (device partition : String) (n : ℕ) :
    (pollForNode device partition n).AllCalls (Cmd.AtPartition partition) := by
  induction n with
  | zero => exact allCalls_ask.mpr rfl
  | succ n ih =>
      refine AllCalls.bind (allCalls_ask.mpr rfl) fun found => ?_
      cases found with
      | true => trivial
      | false =>
          exact AllCalls.bind (allCalls_ask.mpr trivial) fun _ =>
            AllCalls.bind (allCalls_ask.mpr trivial) fun _ => ih

/-- Whatever it is called: what is built is what is waited for and formatted. -/
lemma formatDevice_atPartition (device passphrase : String) :
    (formatDevice device passphrase false).AllCalls
      (Cmd.AtPartition (firstPartitionPath device)) := by
  have hwait : (waitForPartitionNode device (firstPartitionPath device)).AllCalls
      (Cmd.AtPartition (firstPartitionPath device)) := by
    refine AllCalls.bind (AllCalls.bind (allCalls_ask.mpr trivial) fun monitor => ?_) fun waited => ?_
    · cases monitor with
      | true =>
          exact AllCalls.bind (allCalls_ask.mpr trivial) fun _ =>
            AllCalls.bind (allCalls_ask.mpr trivial) fun _ => trivial
      | false => trivial
    · cases waited with
      | true => exact allCalls_ask.mpr rfl
      | false => exact pollForNode_atPartition _ _ 20
  have hformat : (formatLuks2Removable (firstPartitionPath device) passphrase).AllCalls
      (Cmd.AtPartition (firstPartitionPath device)) := by
    have hformats : (formatLuks2Removable (firstPartitionPath device) passphrase).AllCalls
        (Cmd.FormatsAt (firstPartitionPath device) True) := formatLuks2Removable_formats fun _ => trivial
    refine hformats.mono fun c hc => ?_
    cases c with
    | cacheInsert d vk => exact hc.1
    | pathExists p => exact hc.elim
    | init d => exact hc
    | format d vk => exact hc
    | addByKey d vk pw => exact hc
    | _ => trivial
  refine AllCalls.bind (allCalls_ask.mpr trivial) fun _ => ?_
  refine AllCalls.bind (allCalls_orFail _ _) fun _ => ?_
  refine AllCalls.bind (allCalls_ask.mpr trivial) fun _ => ?_
  refine AllCalls.bind (allCalls_orFail _ _) fun _ => ?_
  refine AllCalls.bind hwait fun found => ?_
  cases found with
  | true => exact AllCalls.bind (hformat.mapErr _) fun _ => trivial
  | false => trivial

section

variable {disk : String}

lemma LettersName.endsInDigit (hdisk : LettersName disk.toList) :
    endsInDigit disk.toList = false := by
  have hlast := List.getLast_mem hdisk.1
  have hdigit : (disk.toList.getLast hdisk.1).isDigit = false := by
    by_contra h
    rw [Bool.not_eq_false] at h
    have hlower := hdisk.2 _ hlast
    rw [isLower_of_isDigit h] at hlower
    cases hlower
  rw [LuksEnroll.endsInDigit, List.getLast?_eq_some_getLast hdisk.1]
  exact hdigit

lemma NvmeName.endsInDigit (hdisk : NvmeName disk.toList) : endsInDigit disk.toList = true := by
  obtain ⟨ctrl, ns, hname, -, hns⟩ := hdisk
  have hlast : disk.toList.getLast? = some (ns.getLast hns.1) := by
    rw [hname, List.append_cons, List.getLast?_append_of_ne_nil _ hns.1,
      List.getLast?_eq_some_getLast hns.1]
  rw [LuksEnroll.endsInDigit, hlast]
  exact hns.2 _ (List.getLast_mem hns.1)

/-- No slash, so the disk is a name in `/dev`. -/
lemma LettersName.slash_notMem (hdisk : LettersName disk.toList) : '/' ∉ disk.toList := by
  intro h
  exact absurd (hdisk.2 _ h) (by decide)

lemma NvmeName.slash_notMem (hdisk : NvmeName disk.toList) : '/' ∉ disk.toList := by
  obtain ⟨ctrl, ns, hname, hctrl, hns⟩ := hdisk
  have hdigits : ∀ cs : List Char, Digits cs → '/' ∉ cs := by
    intro cs hcs h
    exact absurd (hcs.2 _ h) (by decide)
  simp [hname, hdigits _ hctrl, hdigits _ hns]

lemma slash_notMem_kernelPartition (hdisk : '/' ∉ disk.toList) (n : ℕ) :
    '/' ∉ (kernelPartition disk n).toList := by
  have hnumber : '/' ∉ Nat.toDigits 10 n := by
    intro h
    exact absurd ((digits_toDigits n).2 _ h) (by decide)
  rw [kernelPartition, String.toList_append, String.toList_append]
  split_ifs <;> simp [hdisk, hnumber]

/-- The patterns agree with the kernel on disks of letters. -/
lemma namesAgree_letters (hdisk : LettersName disk.toList) : NamesAgree disk := by
  have hpart : ∀ n, (kernelPartition disk n).toList = disk.toList ++ Nat.toDigits 10 n := by
    intro n
    simp [kernelPartition, hdisk.endsInDigit]
  have hnvme : nvmeDisk (disk.toList ++ []) = none := nvmeDisk_letters hdisk.2 (by simp)
  rw [List.append_nil] at hnvme
  have hfirst : firstPartitionPath ("/dev/" ++ disk) = "/dev/" ++ kernelPartition disk 1 := by
    have hwhole : isNvmeWholeDisk disk = false := by simp [isNvmeWholeDisk, hnvme]
    rw [firstPartitionPath, basename_dev hdisk.slash_notMem, hwhole, ← String.toList_inj]
    simp [hpart, toDigits_one]
  refine ⟨?_, fun n _ => ?_, hfirst, (firstPartition_eq disk).trans hfirst.symm,
    fun passphrase => hfirst ▸ formatDevice_atPartition _ _⟩
  · rw [parentDeviceName, basename_of_notMem hdisk.slash_notMem, lettersThenDigitsParent_letters hdisk]
    simp [nvmePartitionParent, hnvme]
  · have hnone := nvmeDisk_letters hdisk.2 (digits_toDigits n).2
    rw [parentDeviceName, basename_of_notMem (slash_notMem_kernelPartition hdisk.slash_notMem n),
      lettersThenDigitsParent_partition hdisk (digits_toDigits n) (hpart n)]
    simp [nvmePartitionParent, hpart, hnone]

lemma namesAgree_nvme (hdisk : NvmeName disk.toList) : NamesAgree disk := by
  have hpart : ∀ n, (kernelPartition disk n).toList = disk.toList ++ 'p' :: Nat.toDigits 10 n := by
    intro n
    simp [kernelPartition, hdisk.endsInDigit]
  have hfirst : firstPartitionPath ("/dev/" ++ disk) = "/dev/" ++ kernelPartition disk 1 := by
    rw [firstPartitionPath, basename_dev hdisk.slash_notMem, isNvmeWholeDisk_iff.mpr hdisk,
      ← String.toList_inj]
    simp [hpart, toDigits_one]
  refine ⟨?_, fun n _ => ?_, hfirst, (firstPartition_eq disk).trans hfirst.symm,
    fun passphrase => hfirst ▸ formatDevice_atPartition _ _⟩
  · rw [parentDeviceName, basename_of_notMem hdisk.slash_notMem, nvmePartitionParent_disk hdisk,
      lettersThenDigitsParent_nvme hdisk (List.append_nil _).symm]
    rfl
  · rw [parentDeviceName, basename_of_notMem (slash_notMem_kernelPartition hdisk.slash_notMem n),
      nvmePartitionParent_partition hdisk (digits_toDigits n) (hpart n), String.ofList_toList]
    rfl

/-- A partition's name is longer than its disk's, so a disk that is the parent of its partition is
found by one of the patterns. -/
lemma NamesAgree.name (h : NamesAgree disk) : LettersName disk.toList ∨ NvmeName disk.toList := by
  have hparent := h.parent_partition 1 le_rfl
  have hslash : '/' ∉ disk.toList := h.parent_disk ▸ slash_notMem_parent disk
  rw [parentDeviceName, basename_of_notMem (slash_notMem_kernelPartition hslash 1)] at hparent
  cases hnvme : nvmePartitionParent (kernelPartition disk 1) with
  | some parent =>
      rw [hnvme] at hparent
      obtain rfl : parent = disk := hparent
      exact Or.inr (nvmePartitionParent_eq hnvme).1
  | none =>
      cases hletters : lettersThenDigitsParent (kernelPartition disk 1) with
      | some parent =>
          rw [hnvme, hletters] at hparent
          obtain rfl : parent = disk := hparent
          exact Or.inl (lettersThenDigitsParent_eq hletters).1
      | none =>
          rw [hnvme, hletters] at hparent
          have hlength := congrArg (fun s => s.toList.length) hparent
          simp [kernelPartition, Nat.toDigits_ne_nil] at hlength

end

/-- **Where the names agree.**  For every disk whose name consists of lowercase letters, and for every
NVMe namespace: it is its own parent and the parent of all its partitions, and what is waited for and
formatted when the whole disk is formatted is the kernel's first partition.  For every other name one
of these fails. -/
theorem names_agree_iff (disk : String) :
    NamesAgree disk ↔ LettersName disk.toList ∨ NvmeName disk.toList := by
  constructor
  · intro h
    exact h.name
  · rintro (hdisk | hdisk)
    · exact namesAgree_letters hdisk
    · exact namesAgree_nvme hdisk

/-- A card reader's disk: its name reads like a partition, its partition like a disk, and the kernel
puts the first partition elsewhere. -/
theorem mmcblk_disagrees :
    ¬ NamesAgree "mmcblk0"
      ∧ parentDeviceName "mmcblk0" = "mmcblk"
      ∧ kernelPartition "mmcblk0" 1 = "mmcblk0p1"
      ∧ parentDeviceName (kernelPartition "mmcblk0" 1) = "mmcblk0p1"
      ∧ firstPartitionPath "/dev/mmcblk0" = "/dev/mmcblk01" := by
  have hparent : parentDeviceName "mmcblk0" = "mmcblk" := by decide
  refine ⟨fun h => ?_, hparent, by decide, by decide, by decide⟩
  have hself := h.parent_disk
  rw [hparent] at hself
  exact absurd hself (by decide)

end LuksEnroll
