import LuksEnroll.Gate

/-!
# Possession of a descriptor

The `*Fd` methods ask neither polkit nor the owner of the file: holding the descriptor is the
authorization, since the caller could only have got it with the access it stands for.  `check_fd`
looks at the access mode of the descriptor, and the service then reopens `/proc/self/fd/N` with its
own privileges.

The access mode of an `O_PATH` descriptor reads as read-only, but opening one takes no permission on
the file at all: its holder gets the header read for them (`path_descriptor_admitted`).  The methods
that write are right for every descriptor; those that only read are right unless the descriptor
grants no access whatsoever.

The access that a descriptor grants is read off its flags (`grantsRead`, `grantsWrite`), and the methods
off their handlers: which of them write, and what they ask of `check_fd`.  Mode and flags are words of
32 bits, as in the system call.
-/

namespace LuksEnroll

/-! ## Descriptors

The words of the system call, and what they say about a descriptor.
-/

/-- `S_IFMT`, `S_IFREG` and `S_IFBLK`. -/
def sIfmt : BitVec 32 := 0o170000#32

/-- The file type of a regular file. -/
def sIfreg : BitVec 32 := 0o100000#32

/-- That of a block device. -/
def sIfblk : BitVec 32 := 0o060000#32

/-- `O_ACCMODE` and its values. -/
def oAccmode : BitVec 32 := 0o3#32

/-- `O_RDONLY`. -/
def oRdonly : BitVec 32 := 0o0#32

/-- `O_WRONLY`. -/
def oWronly : BitVec 32 := 0o1#32

/-- `O_RDWR`. -/
def oRdwr : BitVec 32 := 0o2#32

/-- `O_PATH`. -/
def oPath : BitVec 32 := 0o10000000#32

/-- A descriptor as the kernel describes it: `fstat`'s mode and the flags of `F_GETFL`.  Opening
with `O_PATH` drops the access mode. -/
structure Descriptor where
  mode : BitVec 32
  flags : BitVec 32
  path_bits : flags &&& oPath ≠ 0#32 → flags &&& oAccmode = oRdonly

namespace Descriptor

/-- The access mode. -/
def acc (d : Descriptor) : BitVec 32 := d.flags &&& oAccmode

/-- Opened with `O_PATH`: the descriptor names the file and grants nothing. -/
def isPath (d : Descriptor) : Prop := d.flags &&& oPath ≠ 0#32

/-- What the kernel lets the holder do.  The access mode 3 is reserved, and lets neither read nor
write. -/
def grantsRead (d : Descriptor) : Prop := ¬ d.isPath ∧ (d.acc = oRdonly ∨ d.acc = oRdwr)

/-- The descriptor lets its holder write. -/
def grantsWrite (d : Descriptor) : Prop := ¬ d.isPath ∧ (d.acc = oWronly ∨ d.acc = oRdwr)

instance (d : Descriptor) : Decidable d.isPath := inferInstanceAs (Decidable (_ ≠ _))

instance (d : Descriptor) : Decidable d.grantsRead := inferInstanceAs (Decidable (_ ∧ _))

instance (d : Descriptor) : Decidable d.grantsWrite := inferInstanceAs (Decidable (_ ∧ _))

/-- Is it a regular file, or also a block device? -/
def typeAdmitted (d : Descriptor) (regularOnly : Bool) : Bool :=
  let typ := d.mode &&& sIfmt
  typ == sIfreg || (!regularOnly && typ == sIfblk)

/-- `check_fd`.  The two system calls do not fail on a descriptor that is open. -/
def checkFd (d : Descriptor) (needWrite regularOnly : Bool) : Except SvcError Unit :=
  if d.typeAdmitted regularOnly then
    if needWrite then
      if d.acc ≠ oRdwr then
        Except.error (SvcError.invalidArgs "File descriptor is not writable")
      else Except.ok ()
    else if d.acc = oWronly then
      Except.error (SvcError.invalidArgs "File descriptor is not readable")
    else Except.ok ()
  else Except.error (SvcError.invalidArgs "Descriptor is not a regular file")

end Descriptor

/-! ## Methods

The methods by descriptor, with the check that each of them makes and what it does to the file.
-/

/-- The `*Fd` methods. -/
inductive FdHandler : Type
  | getKeyslots
  | getTokensByType
  | findPasswordKeyslots
  | isVolumeKeyCached
  | getDeviceInfo
  | checkFido2Enrolled
  | verifyPassphrase
  | unlockWithToken
  | openVolume
  | closeVolume
  | enrollFido2
  | enrollTpm2
  | enrollRecoveryKey
  | enrollPassphrase
  | wipeSlot
  | createEncryptedImage

namespace FdHandler

/-- The `need_write` of the handler's `check_fd`. -/
def needWrite : FdHandler → Bool
  | getKeyslots => false
  | getTokensByType => false
  | findPasswordKeyslots => false
  | isVolumeKeyCached => false
  | getDeviceInfo => false
  | checkFido2Enrolled => false
  | verifyPassphrase => false
  | unlockWithToken => false
  | openVolume => true
  | closeVolume => true
  | enrollFido2 => true
  | enrollTpm2 => true
  | enrollRecoveryKey => true
  | enrollPassphrase => true
  | wipeSlot => true
  | createEncryptedImage => true

/-- The `regular_only` of the handler's `check_fd`. -/
def regularOnly : FdHandler → Bool
  | closeVolume => true
  | createEncryptedImage => true
  | _ => false

/-- The handler's check of its descriptor. -/
def admits (m : FdHandler) (d : Descriptor) : Prop :=
  d.checkFd m.needWrite m.regularOnly = Except.ok ()

/-- The methods that change the file, or what is mapped over it. -/
def writes : FdHandler → Prop
  | openVolume => True
  | closeVolume => True
  | enrollFido2 => True
  | enrollTpm2 => True
  | enrollRecoveryKey => True
  | enrollPassphrase => True
  | wipeSlot => True
  | createEncryptedImage => True
  | _ => False

/-- The access that a method exercises on the file: it reads, and may write. -/
def coveredBy (m : FdHandler) (d : Descriptor) : Prop :=
  d.grantsRead ∧ (m.writes → d.grantsWrite)

end FdHandler

/-! ## What a check says

The check in terms of access, for every word, and the theorem.
-/

/-- For writing, a descriptor must be open for both. -/
lemma checkFd_write_iff {d : Descriptor} {regularOnly : Bool} :
    d.checkFd true regularOnly = Except.ok () ↔
      d.typeAdmitted regularOnly = true ∧ d.acc = oRdwr := by
  by_cases htype : d.typeAdmitted regularOnly = true
  · by_cases hacc : d.acc = oRdwr
    · simp [Descriptor.checkFd, htype, hacc]
    · simp [Descriptor.checkFd, htype, hacc]
  · simp [Descriptor.checkFd, htype]

/-- For reading, it must not be open for writing alone. -/
lemma checkFd_read_iff {d : Descriptor} {regularOnly : Bool} :
    d.checkFd false regularOnly = Except.ok () ↔
      d.typeAdmitted regularOnly = true ∧ d.acc ≠ oWronly := by
  by_cases htype : d.typeAdmitted regularOnly = true
  · by_cases hacc : d.acc = oWronly
    · simp [Descriptor.checkFd, htype, hacc]
    · simp [Descriptor.checkFd, htype, hacc]
  · simp [Descriptor.checkFd, htype]

lemma Descriptor.acc_cases (d : Descriptor) :
    d.acc = oRdonly ∨ d.acc = oWronly ∨ d.acc = oRdwr ∨ d.acc = oAccmode := by
  have hlt : d.acc.toNat < 4 := by
    have hle : d.acc.toNat ≤ oAccmode.toNat := by
      rw [Descriptor.acc, BitVec.toNat_and]
      exact Nat.and_le_right
    exact Nat.lt_succ_of_le hle
  have hcases : ∀ x : BitVec 32, x.toNat < 4 →
      x = oRdonly ∨ x = oWronly ∨ x = oRdwr ∨ x = oAccmode := by
    intro x hx
    simp only [← BitVec.toNat_inj, oRdonly, oWronly, oRdwr, oAccmode]
    simp only [BitVec.toNat_ofNat]
    omega
  exact hcases d.acc hlt

/-- A read-write access mode is never that of an `O_PATH` descriptor. -/
lemma Descriptor.not_isPath_of_rdwr {d : Descriptor} (h : d.acc = oRdwr) : ¬ d.isPath := by
  intro hpath
  have hzero := d.path_bits hpath
  rw [Descriptor.acc] at h
  rw [h] at hzero
  exact absurd hzero (by decide)

/-- A method asks for writing exactly when it writes. -/
lemma FdHandler.needWrite_iff (m : FdHandler) : m.needWrite = true ↔ m.writes := by
  cases m <;> simp [needWrite, writes]

/-- One that does not write takes a block device as well. -/
lemma FdHandler.regularOnly_of_not_writes {m : FdHandler} (h : ¬ m.writes) :
    m.regularOnly = false := by
  cases m <;> simp_all [regularOnly, writes]

/-- **When possession is authorization.**  For every method and every descriptor: that the check
admits it only with the access that the method exercises holds exactly unless the method is one that
only reads, the descriptor has a type it takes, and was opened with `O_PATH` or with the reserved
access mode 3. -/
theorem admits_only_covered_iff (m : FdHandler) (d : Descriptor) :
    (m.admits d → m.coveredBy d) ↔
      ¬ (¬ m.writes ∧ d.typeAdmitted false = true ∧ (d.isPath ∨ d.acc = oAccmode)) := by
  by_cases hwrites : m.writes
  · -- the access mode says it all
    simp only [hwrites, not_true_eq_false, false_and, not_false_eq_true, iff_true]
    intro hadmits
    rw [FdHandler.admits, m.needWrite_iff.mpr hwrites, checkFd_write_iff] at hadmits
    have hpath := Descriptor.not_isPath_of_rdwr hadmits.2
    exact ⟨⟨hpath, Or.inr hadmits.2⟩, fun _ => ⟨hpath, Or.inr hadmits.2⟩⟩
  · have hread : m.needWrite = false := by
      simpa using mt m.needWrite_iff.mp hwrites
    rw [FdHandler.admits, hread, FdHandler.regularOnly_of_not_writes hwrites, checkFd_read_iff]
    simp only [FdHandler.coveredBy, hwrites, false_implies, and_true, not_false_eq_true, true_and]
    constructor
    · rintro hcovered ⟨htype, hbad⟩
      have hacc : d.acc ≠ oWronly := by
        rcases hbad with hpath | hbad
        · rw [Descriptor.acc, d.path_bits hpath]
          decide
        · rw [hbad]
          decide
      obtain ⟨hnot, hmode⟩ := hcovered ⟨htype, hacc⟩
      rcases hbad with hpath | hbad
      · exact hnot hpath
      · rw [hbad] at hmode
        exact absurd hmode (by decide)
    · rintro hgood ⟨htype, hacc⟩
      refine ⟨fun hpath => hgood ⟨htype, Or.inl hpath⟩, ?_⟩
      rcases d.acc_cases with h | h | h | h
      · exact Or.inl h
      · exact absurd h hacc
      · exact Or.inr h
      · exact absurd ⟨htype, Or.inr h⟩ hgood

/-- **A descriptor that grants nothing.**  A regular file opened with `O_PATH`, which takes no
permission on it, is admitted by `VerifyPassphraseFd`. -/
theorem path_descriptor_admitted :
    let d : Descriptor := ⟨sIfreg, oPath, by decide⟩
    FdHandler.verifyPassphrase.admits d ∧ ¬ FdHandler.verifyPassphrase.coveredBy d := by
  refine ⟨by rfl, fun hcovered => ?_⟩
  exact absurd hcovered.1 (by decide)

end LuksEnroll
