import LuksEnroll.Luks

/-!
# Formatting removable media

Device names as `devices.rs` reads them, and the destructive path of `format.rs`: signatures are
wiped, a whole disk is partitioned, and the partition is formatted once its node has appeared.

`parentDeviceName` stands for the two regular expressions of the source: the disk of an NVMe partition,
and letters followed by digits.  It reads names, not links, and the flag for removable media is looked up
under the name it gives.  So `formatDevice` formats what the name stands for, which need not be what the
path leads to; the modules on placement and on removable disks are about the difference.

The signatures on a disk, the partition table and the node of the first partition are commands: what they
do to the disk is settled by the environment (`Oracle.lost`), and the node appears when the kernel has
read the table, or is never seen, and then the format fails with the text of the source.
-/

namespace LuksEnroll

open Library

/-! ## Device names

The patterns of `devices.rs` on the characters of a name.
-/

/-- Digits at the front, and what follows. -/
def spanDigits (cs : List Char) : List Char × List Char := cs.span Char.isDigit

/-- `nvme[0-9]+n[0-9]+` at the front of a name, and what follows. -/
def nvmeDisk (name : List Char) : Option (List Char × List Char) :=
  match name with
  | 'n' :: 'v' :: 'm' :: 'e' :: rest =>
      match spanDigits rest with
      | (ctrl, 'n' :: rest') =>
          let (ns, rest'') := spanDigits rest'
          if ctrl ≠ [] ∧ ns ≠ [] then some ("nvme".toList ++ ctrl ++ 'n' :: ns, rest'') else none
      | _ => none
  | _ => none

/-- `is_nvme_whole_disk`. -/
def isNvmeWholeDisk (name : String) : Bool :=
  match nvmeDisk name.toList with
  | some (_, rest) => decide (rest = [])
  | none => false

/-- `nvme_partition_parent`. -/
def nvmePartitionParent (name : String) : Option String :=
  match nvmeDisk name.toList with
  | some (parent, 'p' :: rest) =>
      let (part, rest') := spanDigits rest
      if part ≠ [] ∧ rest' = [] then some (String.ofList parent) else none
  | _ => none

/-- `letters_then_digits_parent`. -/
def lettersThenDigitsParent (name : String) : Option String :=
  let (letters, rest) := name.toList.span Char.isLower
  if letters ≠ [] ∧ rest ≠ [] ∧ rest.all Char.isDigit then some (String.ofList letters) else none

/-- `parent_device_name`: the kernel name of the disk a device name belongs to. -/
def parentDeviceName (device : String) : String :=
  let base := basename device
  (nvmePartitionParent base).getD ((lettersThenDigitsParent base).getD base)

/-- The sysfs file that says whether the disk of `device` is removable. -/
def removablePath (device : String) : String :=
  "/sys/block/" ++ parentDeviceName device ++ "/removable"

/-- The sysfs file that partitions have. -/
def partitionPath (device : String) : String :=
  "/sys/class/block/" ++ basename device ++ "/partition"

/-- `is_removable`: the kernel's flag for the disk of that name. -/
def isRemovable (device : String) : Op Bool := do
  return decide ((← ask (Cmd.readToString (removablePath device))).map trim = some "1")

/-- `is_partition`. -/
def isPartition (device : String) : Op Bool := ask (Cmd.pathExists (partitionPath device))

/-- The path `format_removable_partition` expects the first partition of a whole disk at. -/
def firstPartitionPath (device : String) : String :=
  device ++ (if isNvmeWholeDisk (basename device) then "p1" else "1")

/-! ## Waiting for a node

The node of a partition is waited for a number of times, and its appearance is the kernel's
business.
-/

/-- `udev_wait_for_partition`: `false` only if no monitor could be set up. -/
def udevWaitForPartition (device : String) : Op Bool := do
  if ← ask Cmd.uevent then
    ask (Cmd.partprobe device)
    ask Cmd.sleep
    return true
  else return false

/-- The polling loop of `wait_for_node`. -/
def pollForNode (device partition : String) : ℕ → Op Bool
  | 0 => ask (Cmd.pathExists partition)
  | n + 1 => do
      if ← ask (Cmd.pathExists partition) then return true
      else do
        ask (Cmd.partprobe device)
        ask Cmd.sleep
        pollForNode device partition n

/-- `wait_for_partition_node`: udev is asked first, and where it cannot be, the node is polled for. -/
def waitForPartitionNode (device partition : String) : Op Bool := do
  if ← udevWaitForPartition device then ask (Cmd.pathExists partition)
  else pollForNode device partition 20

/-! ## Formatting

The functions of `format.rs`, from the innermost.
-/

/-- `format::format_luks2`: keyless when the passphrase is empty. -/
def formatLuks2Removable (path passphrase : String) : Op Unit :=
  if passphrase = "" then formatLuks2Keyless path KeyslotsArea.compact
  else do
    let _ ← formatLuks2 path passphrase KeyslotsArea.compact
    return ()

/-- The rest of `format_removable_partition` once the device is known to be removable. -/
def formatDevice (device passphrase : String) (partition : Bool) : Op String := do
  orFail (← ask (Cmd.wipefs device)) fun e => "wipefs failed: " ++ e
  if partition then
    (formatLuks2Removable device passphrase).mapErr fun e => "luksFormat failed: " ++ e
    return device
  else do
    orFail (← ask (Cmd.gptZapAndPartition device)) fun e => "GPT partitioning failed: " ++ e
    if ← waitForPartitionNode device (firstPartitionPath device) then
      (formatLuks2Removable (firstPartitionPath device) passphrase).mapErr fun e =>
        "luksFormat failed: " ++ e
      return firstPartitionPath device
    else
      Prog.fail ("Partition " ++ firstPartitionPath device ++ " did not appear after formatting")

/-- `format_removable_partition`. -/
def formatRemovablePartition (device passphrase : String) : Op String := do
  if ← isRemovable device then
    let partition ← isPartition device
    formatDevice device passphrase partition
  else Prog.fail "Refusing to format non-removable device"

/-- `create_image_file`: the file is created, and gets its length by a byte written at its end.  The
handle is told by the path it was opened at, and keeps its position to itself. -/
def createImageFile (path : String) (sizeMb : ℤ) : Op Unit :=
  if 1 ≤ sizeMb ∧ sizeMb ≤ 8192 then do
    orFail (← ask (Cmd.createFile path)) id
    orFail (← ask (Cmd.seek path (sizeMb.toNat * 1024 * 1024 - 1))) id
    orFail (← ask (Cmd.writeAll path (sizeMb.toNat * 1024 * 1024 - 1) [0])) id
  else Prog.fail ("size_mb must be between 1 and 8192, got " ++ toString sizeMb)

end LuksEnroll
