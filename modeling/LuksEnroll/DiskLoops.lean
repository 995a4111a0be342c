import LuksEnroll.DiskNames
import LuksEnroll.Library.Patterns
import LuksEnroll.Library.Utf8
import Mathlib.Data.List.Basic

/-!
# The loops behind the names

The source has no regular expressions.  It reads a name's bytes with an index, stands for `[0-9]+` by a
loop, and takes the parent as a slice of the name.  Here the three functions are as they stand there;
a slice that would panic is `none`.

They are the functions on characters that the rest of the development uses (`loops_refine`), they
recognise the patterns in their comments, and no slice panics (`loops_match`).

A name may hold any characters.  The indices of the source count bytes, which is why a loop that only
looks for ASCII can be read character by character (`Library.Utf8`), and why a slice can only end where
a run of ASCII has ended.
-/

namespace LuksEnroll

open Library

namespace Loops

/-! ## The source

The three functions over the bytes of a name, with the indices they keep.  A slice of a text at an
index inside a character would stop the service.
-/

/-- `u8::is_ascii_digit`. -/
def isAsciiDigit (b : UInt8) : Bool := decide ('0'.toUInt8 ≤ b) && decide (b ≤ '9'.toUInt8)

/-- `u8::is_ascii_lowercase`. -/
def isAsciiLowercase (b : UInt8) : Bool := decide ('a'.toUInt8 ≤ b) && decide (b ≤ 'z'.toUInt8)

/-- `&name[..n]`. -/
def sliceTo (name : String) (n : ℕ) : Option String := (takeBytes n name.toList).map String.ofList

/-- `is_nvme_whole_disk`. -/
def isNvmeWholeDisk (name : String) : Bool :=
  match name.toList.dropPrefix? "nvme".toList with
  | none => false
  | some rest =>
      let b := utf8 rest
      let ctrlStart := 0
      let i := loopWhile isAsciiDigit b ctrlStart
      if i = ctrlStart ∨ b.length ≤ i ∨ b[i]? ≠ some 'n'.toUInt8 then false
      else
        let nsStart := i + 1
        let i := loopWhile isAsciiDigit b nsStart
        decide (nsStart < i) && decide (i = b.length)

/-- `nvme_partition_parent`. -/
def nvmePartitionParent (name : String) : Option (Option String) :=
  match name.toList.dropPrefix? "nvme".toList with
  | none => some none
  | some rest =>
      let b := utf8 rest
      let ctrlStart := 0
      let i := loopWhile isAsciiDigit b ctrlStart
      if i = ctrlStart ∨ b.length ≤ i ∨ b[i]? ≠ some 'n'.toUInt8 then some none
      else
        let nsStart := i + 1
        let i := loopWhile isAsciiDigit b nsStart
        if i = nsStart ∨ b.length ≤ i ∨ b[i]? ≠ some 'p'.toUInt8 then some none
        else
          let parentEnd := "nvme".utf8ByteSize + i
          let partStart := i + 1
          let i := loopWhile isAsciiDigit b partStart
          if i = partStart ∨ i ≠ b.length then some none
          else (sliceTo name parentEnd).map some

/-- `letters_then_digits_parent`. -/
def lettersThenDigitsParent (name : String) : Option (Option String) :=
  let b := utf8 name.toList
  let i := loopWhile isAsciiLowercase b 0
  if i = 0 ∨ i = b.length then some none
  else
    let lettersEnd := i
    let i := loopWhile isAsciiDigit b i
    if i ≠ b.length then some none
    else (sliceTo name lettersEnd).map some

/-! ## Bytes and characters

The loops go over bytes and the texts are characters.  A name that starts with ASCII letters has the
same bytes there as characters.
-/

lemma sameAscii_digit : SameAscii isAsciiDigit Char.isDigit where
  ascii := by
    intro b hb
    simp only [isAsciiDigit, Bool.and_eq_true, decide_eq_true_eq, UInt8.le_iff_toNat_le] at hb
    have hhigh : b.toNat ≤ 57 := hb.2
    omega
  same := by
    intro c
    rw [Bool.eq_iff_iff, isDigit_iff]
    simp only [isAsciiDigit, Bool.and_eq_true, decide_eq_true_eq, UInt8.le_iff_toNat_le,
      UInt8.toNat_ofNat']
    show _ ↔ c.toNat < 128 ∧ 48 ≤ c.toNat % 256 ∧ c.toNat % 256 ≤ 57
    omega

lemma sameAscii_lowercase : SameAscii isAsciiLowercase Char.isLower where
  ascii := by
    intro b hb
    simp only [isAsciiLowercase, Bool.and_eq_true, decide_eq_true_eq, UInt8.le_iff_toNat_le] at hb
    have hhigh : b.toNat ≤ 122 := hb.2
    omega
  same := by
    intro c
    rw [Bool.eq_iff_iff, isLower_iff]
    simp only [isAsciiLowercase, Bool.and_eq_true, decide_eq_true_eq, UInt8.le_iff_toNat_le,
      UInt8.toNat_ofNat']
    show _ ↔ c.toNat < 128 ∧ 97 ≤ c.toNat % 256 ∧ c.toNat % 256 ≤ 122
    omega

lemma ascii_of_digits {ds : List Char} (hds : Digits ds) : ∀ d ∈ ds, d.toNat < 128 := by
  intro d hd
  exact sameAscii_digit.lt (hds.2 d hd)

lemma ascii_nvmeName {disk : List Char} (hdisk : NvmeName disk) : ∀ c ∈ disk, c.toNat < 128 := by
  obtain ⟨ctrl, ns, rfl, hctrl, hns⟩ := hdisk
  intro c hc
  simp only [List.mem_append, List.mem_cons] at hc
  rcases hc with (hc | hc) | rfl | hc
  · have hnvme : ∀ c ∈ "nvme".toList, c.isLower = true := List.all_eq_true.mp rfl
    exact sameAscii_lowercase.lt (hnvme c hc)
  · exact ascii_of_digits hctrl c hc
  · decide
  · exact ascii_of_digits hns c hc

lemma ascii_lettersName {letters : List Char} (hletters : LettersName letters) :
    ∀ c ∈ letters, c.toNat < 128 := by
  intro c hc
  exact sameAscii_lowercase.lt (hletters.2 c hc)

/-- A slice that ends after as many bytes as an ASCII piece has characters. -/
lemma sliceTo_append {name : String} {front rest : List Char} (hname : name.toList = front ++ rest)
    (hfront : ∀ c ∈ front, c.toNat < 128) :
    sliceTo name front.length = some (String.ofList front) := by
  rw [sliceTo, hname, ← length_utf8_of_ascii hfront, takeBytes_append]
  rfl

lemma stripPrefix_iff {pre cs rest : List Char} :
    cs.dropPrefix? pre = some rest ↔ cs = pre ++ rest := by
  rw [List.dropPrefix?_eq_some_iff]
  simp

/-! ## What the loops find

Each loop is run from where it stands (`Library.Scanning`), with what it found so far.
-/

/-- The condition under which the source goes on after the number of the controller. -/
lemma ctrl_iff {rest : List Char} :
    ¬ (loopWhile isAsciiDigit (utf8 rest) 0 = 0
        ∨ (utf8 rest).length ≤ loopWhile isAsciiDigit (utf8 rest) 0
        ∨ (utf8 rest)[loopWhile isAsciiDigit (utf8 rest) 0]? ≠ some 'n'.toUInt8)
      ↔ ∃ ctrl tail, rest = ctrl ++ 'n' :: tail ∧ Digits ctrl :=
  (At.start rest).field_iff sameAscii_digit (by decide) (by decide)

/-- There the number of the namespace starts. -/
lemma ctrl_next {ctrl tail : List Char} (hctrl : Digits ctrl) :
    loopWhile isAsciiDigit (utf8 (ctrl ++ 'n' :: tail)) 0 = ctrl.length
      ∧ At (utf8 (ctrl ++ 'n' :: tail))
        (loopWhile isAsciiDigit (utf8 (ctrl ++ 'n' :: tail)) 0 + 1) tail := by
  have hstart : At (utf8 (ctrl ++ 'n' :: tail)) 0 (ctrl ++ 'n' :: tail) := At.start _
  have hnext := hstart.field_next sameAscii_digit (by decide) (by decide) hctrl.2
  rwa [Nat.zero_add] at hnext

lemma isNvmeWholeDisk_iff {name : String} : isNvmeWholeDisk name = true ↔ NvmeName name.toList := by
  rw [isNvmeWholeDisk]
  constructor
  · intro h
    split at h
    · cases h
    · rename_i rest hrest
      simp only at h
      split_ifs at h with hstop
      obtain ⟨ctrl, ns, rfl, hctrl⟩ := ctrl_iff.mp hstop
      obtain ⟨-, hat⟩ := ctrl_next hctrl
      rw [Bool.and_eq_true, decide_eq_true_eq, decide_eq_true_eq] at h
      have hns : Digits ns := by
        refine (hat.last_iff sameAscii_digit).mp ?_
        omega
      exact ⟨ctrl, ns, by rw [stripPrefix_iff.mp hrest, List.append_assoc], hctrl, hns⟩
  · rintro ⟨ctrl, ns, hname, hctrl, hns⟩
    have hrest : name.toList.dropPrefix? "nvme".toList = some (ctrl ++ 'n' :: ns) := by
      rw [stripPrefix_iff, hname, List.append_assoc]
    obtain ⟨-, hat⟩ := ctrl_next hctrl
    have hlast := (hat.last_iff sameAscii_digit).mpr hns
    obtain ⟨hloop, -⟩ := hat.loop sameAscii_digit
    simp only [hrest, if_neg (ctrl_iff.mpr ⟨ctrl, ns, rfl, hctrl⟩), Bool.and_eq_true, decide_eq_true_eq]
    omega

/-- A partition of a namespace: the slice is its name. -/
lemma nvmePartitionParent_partition {name : String} {disk ds : List Char} (hdisk : NvmeName disk)
    (hds : Digits ds) (hname : name.toList = disk ++ 'p' :: ds) :
    nvmePartitionParent name = some (some (String.ofList disk)) := by
  have hslice := sliceTo_append hname (ascii_nvmeName hdisk)
  obtain ⟨ctrl, ns, rfl, hctrl, hns⟩ := hdisk
  have hrest : name.toList.dropPrefix? "nvme".toList = some (ctrl ++ 'n' :: (ns ++ 'p' :: ds)) := by
    rw [stripPrefix_iff, hname]
    simp
  obtain ⟨hctrlEnd, hat⟩ : _ ∧ At _ _ (ns ++ 'p' :: ds) := ctrl_next hctrl
  obtain ⟨hnsEnd, hat'⟩ := hat.field_next sameAscii_digit (by decide) (by decide) hns.2
  have hgo := (hat.field_iff sameAscii_digit (by decide) (by decide)).mpr ⟨ns, ds, rfl, hns⟩
  have hlast := (hat'.last_iff sameAscii_digit).mpr hds
  have hend : "nvme".utf8ByteSize + loopWhile isAsciiDigit (utf8 (ctrl ++ 'n' :: (ns ++ 'p' :: ds)))
      (loopWhile isAsciiDigit (utf8 (ctrl ++ 'n' :: (ns ++ 'p' :: ds))) 0 + 1)
      = ("nvme".toList ++ ctrl ++ 'n' :: ns).length := by
    have hlength : ("nvme".toList ++ ctrl ++ 'n' :: ns).length = 4 + ctrl.length + (ns.length + 1) := by
      simp
      omega
    have hfour : "nvme".utf8ByteSize = 4 := rfl
    omega
  rw [nvmePartitionParent]
  simp only [hrest, if_neg (ctrl_iff.mpr ⟨ctrl, _, rfl, hctrl⟩), if_neg hgo, if_neg hlast, hend, hslice]
  rfl

/-- Where the source goes on to the slice, the name is that of a partition. -/
lemma nvmePartitionParent_cases (name : String) :
    nvmePartitionParent name = some none
      ∨ ∃ disk ds, NvmeName disk ∧ Digits ds ∧ name.toList = disk ++ 'p' :: ds := by
  rw [nvmePartitionParent]
  split
  · exact Or.inl rfl
  · rename_i rest hrest
    simp only
    split_ifs with hctrlStop hnsStop hstop
    · exact Or.inl rfl
    · exact Or.inl rfl
    · exact Or.inl rfl
    · obtain ⟨ctrl, tail, rfl, hctrl⟩ := ctrl_iff.mp hctrlStop
      obtain ⟨-, hat⟩ := ctrl_next hctrl
      obtain ⟨ns, ds, rfl, hns⟩ := (hat.field_iff sameAscii_digit (by decide) (by decide)).mp hnsStop
      obtain ⟨-, hat'⟩ := hat.field_next sameAscii_digit (by decide) (by decide) hns.2
      refine Or.inr ⟨_, ds, ⟨ctrl, ns, rfl, hctrl, hns⟩, (hat'.last_iff sameAscii_digit).mp hstop, ?_⟩
      rw [stripPrefix_iff.mp hrest]
      simp

lemma lettersThenDigitsParent_partition {name : String} {letters ds : List Char}
    (hletters : LettersName letters) (hds : Digits ds) (hname : name.toList = letters ++ ds) :
    lettersThenDigitsParent name = some (some (String.ofList letters)) := by
  have hslice := sliceTo_append hname (ascii_lettersName hletters)
  obtain ⟨d, ds', rfl⟩ := List.exists_cons_of_ne_nil hds.1
  have hd : d.isLower = false := isLower_of_isDigit (hds.2 d (by simp))
  have hstart : At (utf8 (letters ++ d :: ds')) 0 (letters ++ d :: ds') := At.start _
  obtain ⟨hend, hat⟩ := hstart.loop sameAscii_lowercase
  rw [List.takeWhile_append_of_pos hletters.2, List.takeWhile_cons_of_neg (by simp [hd]),
    List.append_nil, Nat.zero_add] at hend
  rw [List.dropWhile_append_of_pos hletters.2, List.dropWhile_cons_of_neg (by simp [hd])] at hat
  have hgo : ¬ (loopWhile isAsciiLowercase (utf8 (letters ++ d :: ds')) 0 = 0
      ∨ loopWhile isAsciiLowercase (utf8 (letters ++ d :: ds')) 0
        = (utf8 (letters ++ d :: ds')).length) := by
    rw [hat.length_iff, hend, List.length_eq_zero_iff]
    simp [hletters.1]
  have hlast := (hat.loop_eq_length_iff sameAscii_digit).mpr hds.2
  rw [← hend] at hslice
  rw [lettersThenDigitsParent, hname]
  simp only [if_neg hgo, hlast, ne_eq, not_true_eq_false, if_false, hslice]
  rfl

lemma lettersThenDigitsParent_cases (name : String) :
    lettersThenDigitsParent name = some none
      ∨ ∃ letters ds, LettersName letters ∧ Digits ds ∧ name.toList = letters ++ ds := by
  rw [lettersThenDigitsParent]
  simp only
  split_ifs with hlettersStop hstop
  · exact Or.inl rfl
  · exact Or.inl rfl
  · obtain ⟨-, hat⟩ := (At.start name.toList).loop sameAscii_lowercase
    rw [not_or, (At.start name.toList).loop_eq_self_iff sameAscii_lowercase, hat.length_iff]
      at hlettersStop
    rw [not_not, hat.loop_eq_length_iff sameAscii_digit] at hstop
    exact Or.inr ⟨_, _, ⟨hlettersStop.1, fun c hc => List.mem_takeWhile_imp hc⟩,
      ⟨hlettersStop.2, hstop⟩, List.takeWhile_append_dropWhile.symm⟩

/-! ## The functions on characters

The functions of `Format` are the same, so everything proved about those holds of the loops.
-/

/-- **The loops are the functions on characters.**  For every name the loops over its bytes return
what the functions that the development uses return, and no slice panics. -/
theorem loops_refine (name : String) :
    isNvmeWholeDisk name = LuksEnroll.isNvmeWholeDisk name
      ∧ nvmePartitionParent name = some (LuksEnroll.nvmePartitionParent name)
      ∧ lettersThenDigitsParent name = some (LuksEnroll.lettersThenDigitsParent name) := by
  refine ⟨?_, ?_, ?_⟩
  · rw [Bool.eq_iff_iff, isNvmeWholeDisk_iff, LuksEnroll.isNvmeWholeDisk_iff]
  · rcases nvmePartitionParent_cases name with hnone | ⟨disk, ds, hdisk, hds, hname⟩
    · cases hparent : LuksEnroll.nvmePartitionParent name with
      | none => exact hnone
      | some parent =>
          obtain ⟨hdisk, ds, hds, hname⟩ := LuksEnroll.nvmePartitionParent_eq hparent
          rw [nvmePartitionParent_partition hdisk hds hname, String.ofList_toList]
    · rw [nvmePartitionParent_partition hdisk hds hname,
        LuksEnroll.nvmePartitionParent_partition hdisk hds hname]
  · rcases lettersThenDigitsParent_cases name with hnone | ⟨letters, ds, hletters, hds, hname⟩
    · cases hparent : LuksEnroll.lettersThenDigitsParent name with
      | none => exact hnone
      | some parent =>
          obtain ⟨hletters, ds, hds, hname⟩ := LuksEnroll.lettersThenDigitsParent_eq hparent
          rw [lettersThenDigitsParent_partition hletters hds hname, String.ofList_toList]
    · rw [lettersThenDigitsParent_partition hletters hds hname,
        LuksEnroll.lettersThenDigitsParent_partition hletters hds hname]

/-! ## The patterns

The regular expressions of the documentation as languages (`Library.Patterns`).
-/

/-- `^nvme[0-9]+n[0-9]+$`. -/
def wholeDisk : RegularExpression Char :=
  Pattern.text "nvme".toList * Pattern.many1 Pattern.digit * Pattern.text ['n']
    * Pattern.many1 Pattern.digit

lemma mem_wholeDisk {cs : List Char} : cs ∈ wholeDisk.matches' ↔ NvmeName cs := by
  simp only [wholeDisk, RegularExpression.matches'_mul, Language.mem_mul, Pattern.mem_text,
    Pattern.mem_many1_digit]
  constructor
  · rintro ⟨_, ⟨_, ⟨_, rfl, ctrl, hctrl, rfl⟩, _, rfl, rfl⟩, ns, hns, rfl⟩
    exact ⟨ctrl, ns, by simp, hctrl, hns⟩
  · rintro ⟨ctrl, ns, rfl, hctrl, hns⟩
    exact ⟨_, ⟨_, ⟨_, rfl, ctrl, hctrl, rfl⟩, _, rfl, rfl⟩, ns, hns, by simp⟩

end Loops

/-- **The loops match their patterns.**  For every name: `is_nvme_whole_disk` holds exactly of the names
that match `^nvme[0-9]+n[0-9]+$`; `nvme_partition_parent` and `letters_then_digits_parent` return without
a panic, and return a parent exactly if the name is this parent, a `p` and digits for a whole NVMe disk,
or lowercase letters and digits. -/
theorem loops_match (name : String) :
    (Loops.isNvmeWholeDisk name = true ↔ name.toList ∈ Loops.wholeDisk.matches')
      ∧ (∃ r, Loops.nvmePartitionParent name = some r
          ∧ ∀ p, r = some p ↔ Loops.isNvmeWholeDisk p = true
            ∧ ∃ ds, Digits ds ∧ name.toList = p.toList ++ 'p' :: ds)
      ∧ ∃ r, Loops.lettersThenDigitsParent name = some r
          ∧ ∀ l, r = some l ↔ LettersName l.toList ∧ ∃ ds, Digits ds ∧ name.toList = l.toList ++ ds := by
  obtain ⟨-, hnvme, hletters⟩ := Loops.loops_refine name
  refine ⟨by rw [Loops.isNvmeWholeDisk_iff, Loops.mem_wholeDisk], ⟨_, hnvme, fun p => ?_⟩,
    _, hletters, fun l => ?_⟩
  · rw [Loops.isNvmeWholeDisk_iff]
    constructor
    · intro h
      exact nvmePartitionParent_eq h
    · rintro ⟨hdisk, ds, hds, hname⟩
      rw [nvmePartitionParent_partition hdisk hds hname, String.ofList_toList]
  · constructor
    · intro h
      exact lettersThenDigitsParent_eq h
    · rintro ⟨hl, ds, hds, hname⟩
      rw [lettersThenDigitsParent_partition hl hds hname, String.ofList_toList]

end LuksEnroll
