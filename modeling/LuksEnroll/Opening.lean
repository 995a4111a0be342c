import LuksEnroll.Unlocking
import Mathlib.Data.String.Basic

/-!
# Opening a volume

The client chooses the mapper name, `OpenVolume` sets up the mapping.

**The name.**  The client keeps what Python calls alphanumeric and does not bound the length; the
service takes ASCII names of at most 128 bytes.  The two agree exactly on the names of
`derived_name_valid_iff`; a long file name is refused (`long_name_refused`).

**The mapping.**  A name that is already mapped is left alone, whatever it is mapped over
(`open_over_another_device`): success means that the name is active, and only a mapping that was
set up by the call itself is known to be over the device (`open_volume_ok`).

The theorem about the name is an equivalence, so that it says of every path and of every UUID whether
the name made of them is accepted.  Python's notion of an alphanumeric character is a parameter
(`CharacterClasses`), as it is read off a table of Unicode that the interpreter brings along; the
examples take one that knows the letters of Latin-1.
-/

namespace LuksEnroll

open Library

/-! ## The name

A name made of a path or a UUID, and the names that the service accepts.  `str.isalnum` is a
parameter, since it follows the tables of Unicode.
-/

/-- Python's character classes.  `str.isalnum` follows Unicode, which on ASCII is the letters and
the digits. -/
structure CharacterClasses where
  isalnum : Char → Bool
  ascii : ∀ c : Char, c.val ≤ 127 → isalnum c = c.isAlphanum

/-- What the name is made from: the UUID, the last part of the path, or a default. -/
def mapperBase (device uuid : String) : String :=
  if uuid ≠ "" then uuid else if basename device ≠ "" then basename device else "volume"

/-- The character that stands for `c` in a name. -/
def safeChar (python : CharacterClasses) (c : Char) : Char :=
  if python.isalnum c || c == '-' || c == '_' then c else '_'

/-- `derive_mapper_name`. -/
def deriveMapperName (python : CharacterClasses) (device uuid : String) : String :=
  let safe := (mapperBase device uuid).toList.map (safeChar python)
  "luks-" ++ (if safe ≠ [] then String.ofList safe else "volume")

/-- The characters of mapper names. -/
def isMapperChar (c : Char) : Bool := c.isAlphanum || c == '-' || c == '_'

lemma le_127_of_isAlphanum {c : Char} (h : c.isAlphanum = true) : c.val ≤ 127 := by
  change (decide (c.val ≥ 'A'.val ∧ c.val ≤ 'Z'.val)
    || (decide (c.val ≥ 'a'.val) && decide (c.val ≤ 'z'.val))
    || (decide (c.val ≥ '0'.val) && decide (c.val ≤ '9'.val))) = true at h
  simp only [Bool.or_eq_true, Bool.and_eq_true, decide_eq_true_eq, UInt32.le_iff_toNat_le] at h
  rw [UInt32.le_iff_toNat_le]
  show _ ≤ 127
  rcases h with ((⟨-, h⟩ | ⟨-, h⟩) | ⟨-, h⟩)
  all_goals exact h.trans (by decide)

lemma utf8Size_of_isMapperChar {c : Char} (h : isMapperChar c = true) : c.utf8Size = 1 := by
  simp only [isMapperChar, Bool.or_eq_true, beq_iff_eq] at h
  rcases h with (h | rfl) | rfl
  · exact Char.utf8Size_eq_one_iff.mpr (le_127_of_isAlphanum h)
  · rfl
  · rfl

/-- Names of mapper characters are as many bytes long as they have characters. -/
lemma utf8Len_of_all {l : List Char} (h : ∀ c ∈ l, isMapperChar c = true) :
    String.utf8Len l = l.length := by
  induction l with
  | nil => rfl
  | cons c l ih =>
      have hc := utf8Size_of_isMapperChar (h c (by simp))
      have hl := ih fun d hd => h d (by simp [hd])
      simp [String.utf8Len_cons, hc, hl]

/-- A character is made safe for the service exactly if Python does not call a non-ASCII one
alphanumeric. -/
lemma isMapperChar_safeChar {python : CharacterClasses} {c : Char} :
    isMapperChar (safeChar python c) = true ↔ (python.isalnum c = true → c.val ≤ 127) := by
  by_cases hc : c.val ≤ 127
  · simp only [hc, implies_true, iff_true]
    by_cases hkeep : (python.isalnum c || c == '-' || c == '_') = true
    · rw [safeChar, if_pos hkeep, isMapperChar, ← python.ascii c hc]
      exact hkeep
    · rw [safeChar, if_neg hkeep]
      rfl
  · have hnot : isMapperChar c = false := by
      by_contra hm
      simp only [Bool.not_eq_false] at hm
      exact hc (Char.utf8Size_eq_one_iff.mp (utf8Size_of_isMapperChar hm))
    by_cases ha : python.isalnum c = true
    · simp [safeChar, ha, hnot, hc]
    · have hd : (c == '-' || c == '_') = false := by
        simp only [isMapperChar, Bool.or_assoc, Bool.or_eq_false_iff] at hnot
        simpa using hnot.2
      have hs : safeChar python c = '_' := by
        simp only [Bool.not_eq_true] at ha
        simp [safeChar, ha, hd]
      rw [hs]
      exact ⟨fun _ h => absurd h ha, fun _ => rfl⟩

/-- `valid_mapper_name` in terms of characters: its bytes are then as many. -/
lemma validMapperName_iff {name : String} : validMapperName name = true ↔
    name ≠ "" ∧ (∀ c ∈ name.toList, isMapperChar c = true) ∧ name.length ≤ 128 := by
  have hvalid : validMapperName name = true ↔
      name ≠ "" ∧ name.utf8ByteSize ≤ 128 ∧ ∀ c ∈ name.toList, isMapperChar c = true := by
    simp [validMapperName, isMapperChar, and_assoc]
  rw [hvalid, and_comm (a := name.utf8ByteSize ≤ 128)]
  refine and_congr_right fun _ => and_congr_right fun hall => ?_
  rw [← String.ofList_toList (s := name), String.utf8ByteSize_ofList, utf8Len_of_all hall,
    String.ofList_toList, String.length_toList]

lemma mapperBase_ne (device uuid : String) : (mapperBase device uuid).toList ≠ [] := by
  rw [mapperBase]
  split_ifs with h1 h2
  · simpa using h1
  · simpa using h2
  · decide

lemma deriveMapperName_toList (python : CharacterClasses) (device uuid : String) :
    (deriveMapperName python device uuid).toList =
      "luks-".toList ++ (mapperBase device uuid).toList.map (safeChar python) := by
  have hne := mapperBase_ne device uuid
  simp [deriveMapperName, hne]

lemma length_deriveMapperName (python : CharacterClasses) (device uuid : String) :
    (deriveMapperName python device uuid).length = 5 + (mapperBase device uuid).length := by
  rw [← String.length_toList, deriveMapperName_toList]
  simp only [List.length_append, List.length_map, String.length_toList]
  rfl

/-- **When the client's name is accepted.**  Exactly if every character of its base that Python
calls alphanumeric is ASCII, and the base has at most 123 characters. -/
theorem derived_name_valid_iff (python : CharacterClasses) (device uuid : String) :
    validMapperName (deriveMapperName python device uuid) = true ↔
      (∀ c ∈ (mapperBase device uuid).toList, python.isalnum c = true → c.val ≤ 127) ∧
        (mapperBase device uuid).length ≤ 123 := by
  have hlen := length_deriveMapperName python device uuid
  have hnonempty : deriveMapperName python device uuid ≠ "" := by
    intro h
    rw [h, String.length_empty] at hlen
    omega
  have hall : (∀ c ∈ (deriveMapperName python device uuid).toList, isMapperChar c = true) ↔
      ∀ c ∈ (mapperBase device uuid).toList, python.isalnum c = true → c.val ≤ 127 := by
    have hprefix : "luks-".toList.all isMapperChar = true := by decide
    rw [deriveMapperName_toList]
    simp only [List.mem_append, List.mem_map]
    constructor
    · intro h c hc
      exact isMapperChar_safeChar.mp (h _ (Or.inr ⟨c, hc, rfl⟩))
    · rintro h c (hc | ⟨d, hd, rfl⟩)
      · exact List.all_eq_true.mp hprefix c hc
      · exact isMapperChar_safeChar.mpr (h d hd)
  rw [validMapperName_iff, hall, hlen]
  constructor
  · rintro ⟨-, hbase, hle⟩
    exact ⟨hbase, by omega⟩
  · rintro ⟨hbase, hle⟩
    exact ⟨hnonempty, hbase, by omega⟩

/-- What Python counts as alphanumeric between 128 and 255: the letters, and the superscript digits and
fractions, which are numeric. -/
def latin1Alphanumeric : List (ℕ × ℕ) :=
  [(0xaa, 0xaa), (0xb2, 0xb3), (0xb5, 0xb5), (0xb9, 0xba), (0xbc, 0xbe), (0xc0, 0xd6), (0xd8, 0xf6),
    (0xf8, 0xff)]

/-- Python's classes as far as Latin-1 goes. -/
def latin1Classes : CharacterClasses where
  isalnum := fun c => c.isAlphanum
    || latin1Alphanumeric.any fun range => decide (range.1 ≤ c.toNat ∧ c.toNat ≤ range.2)
  ascii := by
    intro c hc
    have hbeyond : ∀ range ∈ latin1Alphanumeric, 127 < range.1 := by decide
    have hle : c.toNat ≤ 127 := UInt32.le_iff_toNat_le.mp hc
    have hnone : (latin1Alphanumeric.any fun range =>
        decide (range.1 ≤ c.toNat ∧ c.toNat ≤ range.2)) = false := by
      refine List.any_eq_false.mpr fun range hrange => ?_
      have := hbeyond range hrange
      rw [decide_eq_true_eq]
      omega
    rw [hnone, Bool.or_false]

/-- A letter with an accent stays in the name, and the service refuses it. -/
example : deriveMapperName latin1Classes "/home/u/é.img" "" = "luks-é_img"
    ∧ validMapperName (deriveMapperName latin1Classes "/home/u/é.img" "") = false
    ∧ validMapperName (deriveMapperName latin1Classes "/home/u/a b.img" "") = true := by decide

/-- **A long name.**  The service refuses what the client makes of a file name of 124 letters, and
of a name in which Python counts a letter outside ASCII. -/
theorem long_name_refused :
    (¬ ∃ python : CharacterClasses, validMapperName (deriveMapperName python
      (String.ofList ('/' :: List.replicate 124 'a')) "") = true) ∧
    ¬ ∃ python : CharacterClasses, python.isalnum 'é' = true ∧
      validMapperName (deriveMapperName python "/home/é" "") = true := by
  constructor
  · rintro ⟨python, h⟩
    have hlen := (validMapperName_iff.mp h).2.2
    rw [length_deriveMapperName] at hlen
    revert hlen
    decide +kernel
  · rintro ⟨python, hletter, h⟩
    have hmem : 'é' ∈ (deriveMapperName python "/home/é" "").toList := by
      rw [deriveMapperName_toList]
      refine List.mem_append_right _ (List.mem_map.mpr ⟨'é', by decide +kernel, ?_⟩)
      simp [safeChar, hletter]
    have hascii := (validMapperName_iff.mp h).2.1 'é' hmem
    revert hascii
    decide

/-! ## The mapping

An `OpenVolume` that says yes has mapped the volume it was asked for, unless the name was in use
already.
-/

/-- The name is mapped over the object that the device path leads to, with the volume key of the
header there. -/
def World.MappedOver (w : World) (device name : String) : Prop :=
  ∃ i h m, w.fs.node device = some i ∧ w.luks i = some h ∧ w.mappings name = some m ∧
    m.object = i ∧ m.key = h.volumeKey

/-- What an `OpenVolume` that succeeds has done: found the name active and changed no mapping, or
mapped the device itself. -/
def Opened (device name : String) (w w' : World) : Prop :=
  (w.mappings name).isSome ∧ w'.mappings = w.mappings ∨
    w.mappings name = none ∧ w'.MappedOver device name

variable {who : Option ℕ} {A : Oracle → Prop} {device : String}

lemma activate_ok {name : String} {vk : VolumeKey} {o : Oracle} {w : World}
    (hok : (exec who (Cmd.activateByVolumeKey device name vk) o w).1 = Except.ok ()) :
    w.mappings name = none ∧
      (exec who (Cmd.activateByVolumeKey device name vk) o w).2.MappedOver device name := by
  simp only [exec, answer, World.activate] at hok ⊢
  cases hf : o.fault with
  | some e => simp [hf] at hok
  | none =>
      cases hi : w.fs.node device with
      | none => simp [hf, hi] at hok
      | some i =>
          cases hh : w.luks i with
          | none => simp [hf, hi, hh] at hok
          | some h =>
              by_cases hact : vk = h.volumeKey ∧ (w.mappings name).isNone
              · simp only [hh, hact, and_self, if_true]
                refine ⟨Option.isNone_iff_eq_none.mp hact.2,
                  ⟨i, h, ⟨i, h.volumeKey, h.slotIds.length⟩, hi, hh, ?_, rfl, rfl⟩⟩
                exact Function.update_self ..
              · simp only [hf, hi, hh, hact, if_false] at hok
                simp at hok

lemma activateVolume_opened (name unlockMethod passphrase unlockPin : String) (w : World) :
    (activateVolume device name unlockMethod passphrase unlockPin).wp (exec who) A
      (fun x w' => x = Except.ok () → Opened device name w w') w := by
  rw [activateVolume]
  split_ifs with hname
  · intro o _
    show Prog.wp _ _ _ (if (exec who (Cmd.status name) o w).1 = true then _ else _ : Op Unit) _
    have hlater : w.Later (exec who (Cmd.status name) o w).2 := ⟨o.elapsed, rfl⟩
    split_ifs with hstatus
    · -- the name is active already
      intro _
      simp only [exec, answer, Bool.and_eq_true] at hstatus
      exact Or.inl ⟨hstatus.1, rfl⟩
    · generalize (exec who (Cmd.status name) o w).2 = v at hlater
      refine Prog.wp_bind (Prog.wp_mono (fun x v₁ hx => ?_)
        (getVolumeKey_key unlockMethod passphrase unlockPin v))
      have hdisk := ((hlater.cachedFrom device).trans hx.1).disk
      cases x with
      | error e =>
          intro h
          simp at h
      | ok vk =>
          refine Prog.wp_bind (Prog.wp_mono (fun y v₂ hlater₂ => ?_)
            (wp_looksOn (openLuks2_looks device) v₁))
          have hdisk₂ := hdisk.trans (hlater₂.cachedFrom device).disk
          cases y with
          | error e =>
              intro h
              simp at h
          | ok loaded =>
              refine wp_ask_orFail_last (c := Cmd.activateByVolumeKey device name vk) (r := id)
                (fun o' a _ hok _ => ?_) (fun o' e _ _ h => by simp at h)
              obtain ⟨hfree, hover⟩ := activate_ok hok
              rw [hdisk₂.mappings] at hfree
              exact Or.inr ⟨hfree, hover⟩
  · intro h
    simp at h

/-- **What a successful `OpenVolume` means.**  From every world, on all inputs: if it answers ok,
the name it gives back is the name asked for, and either that name was an active mapping before and
no mapping has changed, or it was free and is now mapped over the device, with the volume key of the
device's header. -/
theorem open_volume_ok (w : World) (os : ℕ → Oracle)
    (device name passphrase unlockMethod unlockPin mapper stderr : String)
    (hok : ((opOpenVolume device name passphrase unlockMethod unlockPin).run (exec none) os w).1 =
      Except.ok (true, mapper, stderr)) :
    mapper = name ∧ Opened device name w
      ((opOpenVolume device name passphrase unlockMethod unlockPin).run (exec none) os w).2 := by
  have hwp : (opOpenVolume device name passphrase unlockMethod unlockPin).wp (exec none)
      (fun _ => True) (fun x w' => ∀ mapper stderr, x = Except.ok (true, mapper, stderr) →
        mapper = name ∧ Opened device name w w') w := by
    refine Prog.wp_bind (Prog.wp_attempt (Prog.wp_mono (fun x w' hx => ?_)
      (activateVolume_opened name unlockMethod passphrase unlockPin w)))
    cases x with
    | ok _ =>
        intro mapper stderr hr
        simp only [Except.ok.injEq, Prod.mk.injEq] at hr
        exact ⟨hr.2.1.symm, hx rfl⟩
    | error e =>
        intro mapper stderr hr
        simp at hr
  exact Prog.wp_sound hwp os (fun _ => trivial) mapper stderr hok

/-- Two volumes, and the second is mapped as `luks-a`. -/
def twoVolumes : World :=
  { World.start (FileSystem.ofList [("/dev/sdb1", FileKind.block "sdb" false, 0),
      ("/dev/sdc1", FileKind.block "sdc" false, 0)] [])
      (fun i => if i = 0 then some (Header.ofKeyslots ⟨[7]⟩ [⟨"luks2", asBytes "pw", true, none⟩]
        (by decide)) else if i = 1 then some (Header.ofKeyslots ⟨[8]⟩
          [⟨"luks2", asBytes "pw", true, none⟩] (by decide)) else none) with
    mappings := fun name => if name = "luks-a" then some ⟨1, ⟨[8]⟩, 1⟩ else none }

/-- A free name is mapped over the device. -/
theorem open_under_free_name :
    Opened "/dev/sdb1" "luks-b" twoVolumes
      ((opOpenVolume "/dev/sdb1" "luks-b" "pw" "passphrase" "").run (exec none)
        (fun _ => Oracle.quiet) twoVolumes).2 :=
  (open_volume_ok twoVolumes (fun _ => Oracle.quiet) "/dev/sdb1" "luks-b" "pw" "passphrase" ""
    "luks-b" "" (by rfl)).2

/-- **Success over another device.**  Asked to open the first volume under the name of the second,
the service answers ok, and the name still leads to the second. -/
theorem open_over_another_device :
    ((opOpenVolume "/dev/sdb1" "luks-a" "pw" "passphrase" "").run (exec none)
        (fun _ => Oracle.quiet) twoVolumes).1 = Except.ok (true, "luks-a", "") ∧
      ¬ ((opOpenVolume "/dev/sdb1" "luks-a" "pw" "passphrase" "").run (exec none)
        (fun _ => Oracle.quiet) twoVolumes).2.MappedOver "/dev/sdb1" "luks-a" := by
  refine ⟨by rfl, ?_⟩
  rintro ⟨i, h, m, hi, -, hm, hobject, -⟩
  have hm' : some m = some ⟨1, ⟨[8]⟩, 1⟩ := hm.symm.trans (by rfl)
  have hi' : some i = some 0 := hi.symm.trans (by decide +kernel)
  simp only [Option.some.injEq] at hm' hi'
  simp [hm', hi'] at hobject

end LuksEnroll
