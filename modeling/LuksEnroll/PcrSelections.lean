import LuksEnroll.Library.Bits
import LuksEnroll.Tokens

/-!
# Which registers a text selects

A selection of registers begins as a text and ends as a mask of three octets.  On the way every part is
trimmed, read as a signed 64-bit number, checked, cut to a byte and shifted into a bit, and the bits
become slots of the TPM library, which makes the mask.

A secret that is sealed to the wrong registers is opened by the wrong machine state.  The texts that are
accepted are those that name registers, and the mask has the bits of exactly these
(`selection_exact`).

The TPM library is a parameter, with what its documentation says of the two calls that are made.

A text denotes a list of numbers when its parts do, each after trimming, and each by the reader of the
standard library, which takes a sign.  The service turns the parts into a list in the order of the text
and leaves out what was there before; the mask has no order.
-/

namespace LuksEnroll

open Library

/-! ## What a text says

What it is for a text to denote a list of numbers, in terms of its parts, and that the parser finds
exactly these.
-/

/-- The parts of a text that are not blank, trimmed. -/
def pcrSegments (pcrs : String) : List String :=
  ((pcrParts pcrs).map trim).filter fun p => decide (p ≠ "")

/-- A number as a part may say it: digits, after a minus or not. -/
def Denotes (seg : String) (n : ℤ) : Prop :=
  ∃ ds, Digits ds ∧ (seg.toList = ds ∧ n = Nat.ofDigitChars 10 ds 0
    ∨ seg.toList = '-' :: ds ∧ n = -Nat.ofDigitChars 10 ds 0)

/-- The text names the register. -/
def Names (pcrs : String) (n : ℕ) : Prop := ∃ seg ∈ pcrSegments pcrs, Denotes seg n

lemma mem_of_mem_trim {s : String} {c : Char} (hc : c ∈ (trim s).toList) : c ∈ s.toList := by
  rw [trim, String.toList_ofList, List.mem_reverse] at hc
  have hback := (List.dropWhile_sublist isWhiteSpace).mem hc
  exact (List.dropWhile_sublist isWhiteSpace).mem (List.mem_reverse.mp hback)

lemma plus_notMem_segment {pcrs seg : String} (hseg : seg ∈ pcrSegments pcrs) : '+' ∉ seg.toList := by
  intro h
  obtain ⟨part, hpart, rfl⟩ := List.mem_map.mp (List.mem_filter.mp hseg).1
  obtain ⟨cs, hcs, rfl⟩ := List.mem_map.mp hpart
  have hplus := mem_of_mem_trim h
  rw [String.toList_ofList] at hplus
  exact notMem_of_mem_splitChar hcs hplus

/-- The parser of `i64` reads what the part denotes. -/
lemma parseI64_segment {pcrs seg : String} (hseg : seg ∈ pcrSegments pcrs) {n : ℤ} :
    parseI64 seg = some n
      ↔ Denotes seg n ∧ -9223372036854775808 ≤ n ∧ n ≤ 9223372036854775807 := by
  rw [parseI64, parseInt, Option.filter_eq_some_iff, parseSigned_eq_some (plus_notMem_segment hseg),
    decide_eq_true_eq]
  exact Iff.rfl

/-- The numbers that the loop reads are those that the parts denote. -/
lemma pcrNumbers_iff {pcrs : String} {ns : List ℕ} (hns : ∀ n ∈ ns, n ≤ 23) :
    pcrNumbers (pcrParts pcrs) = ns.map (fun n : ℕ => some (n : ℤ))
      ↔ List.Forall₂ (fun seg (n : ℕ) => Denotes seg n) (pcrSegments pcrs) ns := by
  have hread : ∀ seg ∈ pcrSegments pcrs, ∀ n ∈ ns, parseI64 seg = some (n : ℤ) ↔ Denotes seg n := by
    intro seg hseg n hn
    have := hns n hn
    rw [parseI64_segment hseg]
    constructor
    · intro h
      exact h.1
    · intro h
      exact ⟨h, by omega, by omega⟩
  show (pcrSegments pcrs).map parseI64 = _ ↔ _
  rw [← List.forall₂_eq_eq_eq, List.forall₂_map_left_iff, List.forall₂_map_right_iff,
    List.forall₂_iff_zip, List.forall₂_iff_zip]
  refine and_congr_right fun _ => ?_
  constructor
  · intro h seg n hmem
    obtain ⟨hseg, hn⟩ := List.of_mem_zip hmem
    exact (hread seg hseg n hn).mp (h hmem)
  · intro h seg n hmem
    obtain ⟨hseg, hn⟩ := List.of_mem_zip hmem
    exact (hread seg hseg n hn).mpr (h hmem)

lemma foldl_pushIndex (ns : List ℕ) : ns.foldl pushIndex [] = ns.eraseDups := by
  induction ns using List.reverseRecOn with
  | nil => rfl
  | append_singleton ns n ih =>
      rw [List.foldl_append, ih, List.eraseDups_append, List.foldl_cons, List.foldl_nil, pushIndex]
      by_cases hn : n ∈ ns
      · rw [if_pos (List.mem_eraseDups.mpr hn)]
        simp [List.removeAll, hn]
      · rw [if_neg fun h => hn (List.mem_eraseDups.mp h)]
        simp [List.removeAll, hn, List.eraseDups_cons]

lemma denotes_rightUnique : Relator.RightUnique Denotes := by
  rintro seg m n ⟨ds, hds, hm⟩ ⟨ds', hds', hn⟩
  rcases hm with ⟨hseg, rfl⟩ | ⟨hseg, rfl⟩ <;> rcases hn with ⟨hseg', rfl⟩ | ⟨hseg', rfl⟩
  · rw [← hseg, ← hseg']
  · rw [← hseg, hseg'] at hds
    exact absurd (hds.2 '-' List.mem_cons_self) (by decide)
  · rw [← hseg', hseg] at hds'
    exact absurd (hds'.2 '-' List.mem_cons_self) (by decide)
  · rw [hseg, List.cons.injEq] at hseg'
    rw [hseg'.2]

/-- The registers that a text names, part by part. -/
def Values (pcrs : String) (ns : List ℕ) : Prop :=
  List.Forall₂ (fun seg (n : ℕ) => Denotes seg n) (pcrSegments pcrs) ns ∧ ∀ n ∈ ns, n ≤ 23

lemma Values.names_iff {pcrs : String} {ns : List ℕ} (h : Values pcrs ns) {n : ℕ} :
    Names pcrs n ↔ n ∈ ns := by
  have hunique : Relator.RightUnique fun seg (n : ℕ) => Denotes seg n := by
    intro seg m n hm hn
    exact Int.ofNat_inj.mp (denotes_rightUnique hm hn)
  exact exists_mem_iff_of_forall₂ hunique h.1

lemma Values.ne_nil_iff {pcrs : String} {ns : List ℕ} (h : Values pcrs ns) :
    ns ≠ [] ↔ pcrSegments pcrs ≠ [] := by
  rw [← List.length_pos_iff, ← List.length_pos_iff, h.1.length_eq]

lemma exists_values_iff {pcrs : String} :
    (∃ ns, Values pcrs ns) ↔ ∀ seg ∈ pcrSegments pcrs, ∃ n, Denotes seg n ∧ 0 ≤ n ∧ n ≤ 23 := by
  constructor
  · rintro ⟨ns, hns⟩ seg hseg
    obtain ⟨n, hn⟩ := exists_forall₂.mp ⟨ns, hns.1⟩ seg hseg
    have hle : n ≤ 23 := hns.2 n (hns.names_iff.mp ⟨seg, hseg, hn⟩)
    exact ⟨n, hn, by omega, by omega⟩
  · intro h
    have hread : ∀ seg ∈ pcrSegments pcrs, ∃ n : ℕ, Denotes seg n ∧ n ≤ 23 := by
      intro seg hseg
      obtain ⟨n, hn, hlo, hhi⟩ := h seg hseg
      lift n to ℕ using hlo
      exact ⟨n, hn, by omega⟩
    obtain ⟨ns, hns⟩ := exists_forall₂.mpr hread
    have hvalues := (List.forall₂_and_left _ _).mp (hns.flip.imp fun n seg hseg => hseg.symm)
    exact ⟨ns, hvalues.2.flip, hvalues.1⟩

/-- **What is accepted**: a text with a part, each of which denotes a register. -/
lemma parsePcrIndices_iff {pcrs : String} {indices : List ℕ} :
    parsePcrIndices pcrs = Except.ok indices
      ↔ ∃ ns, Values pcrs ns ∧ ns ≠ [] ∧ indices = ns.eraseDups := by
  rw [parsePcrIndices_eq_ok]
  constructor
  · rintro ⟨hloop, hne⟩
    obtain ⟨ns, hns, hnumbers, rfl⟩ := pcrIndices_eq_ok hloop
    refine ⟨ns, ⟨(pcrNumbers_iff hns).mp hnumbers, hns⟩, ?_, foldl_pushIndex ns⟩
    rintro rfl
    exact hne rfl
  · rintro ⟨ns, ⟨hvalues, hns⟩, hne, rfl⟩
    rw [pcrIndices_of_numbers ((pcrNumbers_iff hns).mpr hvalues) hns, foldl_pushIndex]
    refine ⟨rfl, fun h => ?_⟩
    obtain ⟨n, hn⟩ := List.exists_mem_of_ne_nil ns hne
    rw [← List.mem_eraseDups, h] at hn
    cases hn

/-! ## The TPM library

A selection names a bank and has a bit for each register, octet by octet.  What the library of the TPM
promises about them is a parameter, and its reference implementation is one that keeps the promise.
-/

/-- The algorithm ids of the banks. -/
def tpm2Alg : HashingAlgorithm → BitVec 16
  | HashingAlgorithm.sha1 => 0x0004#16
  | HashingAlgorithm.sha256 => 0x000B#16
  | HashingAlgorithm.sha384 => 0x000C#16
  | HashingAlgorithm.sha512 => 0x000D#16

inductive PcrSelectSize : Type
  | oneOctet
  | twoOctets
  | threeOctets
  | fourOctets

def PcrSelectSize.octets : PcrSelectSize → ℕ
  | oneOctet => 1
  | twoOctets => 2
  | threeOctets => 3
  | fourOctets => 4

/-- `TPMS_PCR_SELECTION`: the registers of one bank. -/
structure TpmsPcrSelection where
  hash : BitVec 16
  sizeofSelect : ℕ
  pcrSelect : List (BitVec 8)
  deriving DecidableEq

/-- What is used of `tss_esapi`: slots and their bits, and lists of selections as they are built and as
they go to the TPM. -/
structure TssEsapi where
  PcrSlot : Type
  PcrSelectionList : Type
  Error : Type
  display : Error → String
  tryFrom : BitVec 32 → Except Error PcrSlot
  bits : PcrSlot → BitVec 32
  build : PcrSelectSize → HashingAlgorithm → List PcrSlot → Except Error PcrSelectionList
  tpml : PcrSelectionList → List TpmsPcrSelection

/-- What its documentation says: the bit of each of the 24 registers is a slot, and a selection of one
bank is built if the slots fit its size and has their bits, the lowest octet first. -/
structure TssEsapi.Documented (T : TssEsapi) : Prop where
  tryFrom_bit : ∀ k < 24, ∃ slot, T.tryFrom (1#32 <<< k) = Except.ok slot ∧ T.bits slot = 1#32 <<< k
  build_fits : ∀ size bank slots, slots ≠ [] →
    (∀ slot ∈ slots, (T.bits slot).toNat < 2 ^ (8 * size.octets)) →
    ∃ list, T.build size bank slots = Except.ok list ∧ T.tpml list
      = [⟨tpm2Alg bank, size.octets, Bits.octets size.octets (Bits.orAll (slots.map T.bits))⟩]

namespace Machine

/-- The loop of `parse_pcr_indices`, with the cast to a byte. -/
def pcrIndices : List String → List (BitVec 8) → Except String (List (BitVec 8))
  | [], out => Except.ok out
  | part :: parts, out =>
      if trim part = "" then pcrIndices parts out
      else match parseI64 (trim part) with
        | none => Except.error ("Invalid PCR index '" ++ trim part ++ "'")
        | some n =>
            if 0 ≤ n ∧ n ≤ 23 then
              let n := BitVec.ofInt 8 n
              pcrIndices parts (if n ∈ out then out else out ++ [n])
            else Except.error ("PCR index " ++ toString n ++ " out of range (0-23)")

/-- `parse_pcr_indices`. -/
def parsePcrIndices (pcrs : String) : Except String (List (BitVec 8)) := do
  let out ← pcrIndices (pcrParts pcrs) []
  if out = [] then throw "PCR selection must not be empty"
  return out

/-- `build_pcr_selection_list`. -/
def buildPcrSelectionList (T : TssEsapi) (bank : HashingAlgorithm) (pcrs : String) :
    Except String T.PcrSelectionList := do
  let indices ← parsePcrIndices pcrs
  let slots ← indices.mapM fun n => (T.tryFrom (1#32 <<< n)).mapError fun e =>
    "PCR slot conversion failed: " ++ T.display e
  (T.build PcrSelectSize.threeOctets bank slots).mapError fun e =>
    "Failed to build PCR selection: " ++ T.display e

lemma ofNat_mem_iff {out : List ℕ} (hout : ∀ n ∈ out, n ≤ 23) {n : ℕ} (hn : n ≤ 23) :
    BitVec.ofNat 8 n ∈ out.map (BitVec.ofNat 8) ↔ n ∈ out := by
  constructor
  · intro h
    obtain ⟨m, hm, heq⟩ := List.mem_map.mp h
    have := hout m hm
    have hnat := congrArg BitVec.toNat heq
    rw [BitVec.toNat_ofNat, BitVec.toNat_ofNat, Nat.mod_eq_of_lt (by omega),
      Nat.mod_eq_of_lt (by omega)] at hnat
    exact hnat ▸ hm
  · intro h
    exact List.mem_map_of_mem h

lemma pcrIndices_refine (parts : List String) {out : List ℕ} (hout : ∀ n ∈ out, n ≤ 23) :
    pcrIndices parts (out.map (BitVec.ofNat 8))
      = (LuksEnroll.pcrIndices parts out).map (List.map (BitVec.ofNat 8)) := by
  induction parts generalizing out with
  | nil => rfl
  | cons part parts ih =>
      rw [pcrIndices, LuksEnroll.pcrIndices]
      by_cases hblank : trim part = ""
      · rw [if_pos hblank, if_pos hblank]
        exact ih hout
      · rw [if_neg hblank, if_neg hblank]
        cases parseI64 (trim part) with
        | none => rfl
        | some n =>
            simp only
            by_cases hrange : 0 ≤ n ∧ n ≤ 23
            · rw [if_pos hrange, if_pos hrange]
              lift n to ℕ using hrange.1
              have hn : n ≤ 23 := by omega
              rw [Int.toNat_natCast, pushIndex]
              simp only [BitVec.ofInt_natCast, ofNat_mem_iff hout hn]
              split_ifs with hmem
              · exact ih hout
              · have hpush : ∀ m ∈ out ++ [n], m ≤ 23 := by
                  intro m hm
                  rcases List.mem_append.mp hm with hm | hm
                  · exact hout m hm
                  · rw [List.mem_singleton.mp hm]
                    exact hn
                have hstep := ih hpush
                rwa [List.map_append] at hstep
            · rw [if_neg hrange, if_neg hrange]
              rfl

/-- **The casts are harmless**: the bytes are the numbers, and what is refused is refused with the same
text. -/
lemma parsePcrIndices_refine (pcrs : String) :
    parsePcrIndices pcrs = (LuksEnroll.parsePcrIndices pcrs).map (List.map (BitVec.ofNat 8)) := by
  have hloop : pcrIndices (pcrParts pcrs) []
      = (LuksEnroll.pcrIndices (pcrParts pcrs) []).map (List.map (BitVec.ofNat 8)) := by
    have hnil : ∀ n ∈ ([] : List ℕ), n ≤ 23 := by simp
    exact pcrIndices_refine _ hnil
  rw [parsePcrIndices, LuksEnroll.parsePcrIndices, hloop]
  cases LuksEnroll.pcrIndices (pcrParts pcrs) [] with
  | error e => rfl
  | ok out =>
      cases out with
      | nil => rfl
      | cons n out => rfl

lemma parsePcrIndices_iff {pcrs : String} {out : List (BitVec 8)} :
    parsePcrIndices pcrs = Except.ok out
      ↔ ∃ ns, Values pcrs ns ∧ ns ≠ [] ∧ out = ns.eraseDups.map (BitVec.ofNat 8) := by
  rw [parsePcrIndices_refine]
  constructor
  · intro h
    cases hparse : LuksEnroll.parsePcrIndices pcrs with
    | error e =>
        rw [hparse] at h
        cases h
    | ok indices =>
        obtain ⟨ns, hvalues, hne, rfl⟩ := LuksEnroll.parsePcrIndices_iff.mp hparse
        rw [hparse] at h
        exact ⟨ns, hvalues, hne, (Except.ok.inj h).symm⟩
  · rintro ⟨ns, hvalues, hne, rfl⟩
    rw [LuksEnroll.parsePcrIndices_iff.mpr ⟨ns, hvalues, hne, rfl⟩]
    rfl

section

variable {T : TssEsapi} {bank : HashingAlgorithm} {pcrs : String} {ns : List ℕ}

lemma exists_slots (hT : T.Documented) (hns : ∀ n ∈ ns, n ≤ 23) :
    ∃ slots, List.Forall₂ (fun (n : BitVec 8) slot => T.tryFrom (1#32 <<< n) = Except.ok slot)
        (ns.map (BitVec.ofNat 8)) slots
      ∧ slots.map T.bits = ns.map fun n => 1#32 <<< n := by
  have hslot : ∀ n ∈ ns, ∃ slot, T.tryFrom (1#32 <<< BitVec.ofNat 8 n) = Except.ok slot
      ∧ 1#32 <<< n = T.bits slot := by
    intro n hn
    have hle : n ≤ 23 := hns n hn
    obtain ⟨slot, hslot, hbits⟩ := hT.tryFrom_bit n (by omega)
    refine ⟨slot, ?_, hbits.symm⟩
    rw [BitVec.shiftLeft_eq', BitVec.toNat_ofNat, Nat.mod_eq_of_lt (by omega), hslot]
  obtain ⟨slots, hslots⟩ := exists_forall₂.mpr hslot
  refine ⟨slots, ?_, ?_⟩
  · rw [List.forall₂_map_left_iff]
    exact hslots.imp fun n slot h => h.1
  · rw [eq_comm, ← List.forall₂_eq_eq_eq, List.forall₂_map_left_iff, List.forall₂_map_right_iff]
    exact hslots.imp fun n slot h => h.2

/-- What is built from a text that names these registers. -/
lemma buildPcrSelectionList_values (hT : T.Documented) (bank : HashingAlgorithm)
    (hvalues : Values pcrs ns) (hne : ns ≠ []) :
    ∃ list, buildPcrSelectionList T bank pcrs = Except.ok list ∧ T.tpml list
      = [⟨tpm2Alg bank, 3, Bits.octets 3 (Bits.orAll (ns.eraseDups.map fun n => 1#32 <<< n))⟩] := by
  have hle : ∀ n ∈ ns.eraseDups, n ≤ 23 := by
    intro n hn
    exact hvalues.2 n (List.mem_eraseDups.mp hn)
  have hparse := parsePcrIndices_iff.mpr ⟨ns, hvalues, hne, rfl⟩
  obtain ⟨slots, hslots, hbits⟩ := exists_slots hT hle
  have hloop : (ns.eraseDups.map (BitVec.ofNat 8)).mapM (fun n => (T.tryFrom (1#32 <<< n)).mapError
      fun e => "PCR slot conversion failed: " ++ T.display e) = Except.ok slots := by
    rw [mapM_eq_ok]
    refine hslots.imp fun n slot h => ?_
    rw [h]
    rfl
  have hsome : slots ≠ [] := by
    rintro rfl
    obtain ⟨n, hn⟩ := List.exists_mem_of_ne_nil ns hne
    have hmem : 1#32 <<< n ∈ ns.eraseDups.map fun n => 1#32 <<< n :=
      List.mem_map_of_mem (List.mem_eraseDups.mpr hn)
    rw [← hbits] at hmem
    cases hmem
  have hfits : ∀ slot ∈ slots, (T.bits slot).toNat < 2 ^ (8 * PcrSelectSize.threeOctets.octets) := by
    intro slot hslot
    have hmem : T.bits slot ∈ slots.map T.bits := List.mem_map_of_mem hslot
    rw [hbits] at hmem
    obtain ⟨n, hn, heq⟩ := List.mem_map.mp hmem
    have := hle n hn
    rw [← heq, Bits.toNat_one_shiftLeft (by omega)]
    exact Nat.pow_lt_pow_right (by omega) (show n < 24 by omega)
  obtain ⟨list, hbuild, htpml⟩ := hT.build_fits PcrSelectSize.threeOctets bank slots hsome hfits
  refine ⟨list, ?_, ?_⟩
  · rw [buildPcrSelectionList, hparse]
    simp only [bind, Except.bind, hloop, hbuild]
    rfl
  · rw [htpml, hbits]
    rfl

lemma selects_values (hvalues : Values pcrs ns) {n : ℕ} :
    Bits.selects (Bits.octets 3 (Bits.orAll (ns.eraseDups.map fun n => 1#32 <<< n))) n = true
      ↔ n ∈ ns := by
  have hle : ∀ n ∈ ns.eraseDups, n < 8 * 3 := by
    intro n hn
    have := hvalues.2 n (List.mem_eraseDups.mp hn)
    omega
  rw [Bits.selects_orAll hle (by omega), List.mem_eraseDups]

/-- **The selection of the rest of the development is the one that is built**: the same texts are
refused with the same words, and the mask has the bits that stand in the list. -/
theorem buildPcrSelectionList_refine (hT : T.Documented) (bank : HashingAlgorithm) (pcrs : String) :
    (∀ e, LuksEnroll.buildPcrSelectionList bank pcrs = Except.error e →
        buildPcrSelectionList T bank pcrs = Except.error e)
      ∧ ∀ selection, LuksEnroll.buildPcrSelectionList bank pcrs = Except.ok selection →
        ∃ list mask, buildPcrSelectionList T bank pcrs = Except.ok list
          ∧ T.tpml list = [⟨tpm2Alg selection.bank, 3, mask⟩]
          ∧ ∀ n, Bits.selects mask n = true ↔ 1 <<< n ∈ selection.slots := by
  rw [LuksEnroll.buildPcrSelectionList]
  cases hparse : LuksEnroll.parsePcrIndices pcrs with
  | error e =>
      refine ⟨?_, fun selection h => (by cases h)⟩
      rintro e' ⟨⟩
      rw [buildPcrSelectionList, parsePcrIndices_refine, hparse]
      rfl
  | ok indices =>
      obtain ⟨ns, hvalues, hne, rfl⟩ := LuksEnroll.parsePcrIndices_iff.mp hparse
      refine ⟨fun e h => (by cases h), ?_⟩
      rintro selection ⟨⟩
      obtain ⟨list, hlist, htpml⟩ := buildPcrSelectionList_values hT bank hvalues hne
      have hinj : Function.Injective fun n => 1 <<< n := by
        intro m n h
        simp only [Nat.one_shiftLeft] at h
        exact Nat.pow_right_injective le_rfl h
      refine ⟨list, _, hlist, htpml, fun n => ?_⟩
      rw [selects_values hvalues, List.mem_map_of_injective hinj, List.mem_eraseDups]

end

end Machine

/-- **Exactly the registers that are named.**  For every text and whatever the TPM library does beyond
its documentation: the text is accepted exactly if it has a part that is not blank and each of these is
digits, after a minus or not, for a number from 0 to 23.  What comes out are the numbers in the order of
their first occurrence, no shift loses a bit, and the selection that is built for the bank has the bits of
these numbers and no others, so two texts that name the same registers give the same selection. -/
theorem selection_exact (T : TssEsapi) (hT : T.Documented) (bank : HashingAlgorithm) (pcrs : String) :
    ((∃ out, Machine.parsePcrIndices pcrs = Except.ok out)
        ↔ pcrSegments pcrs ≠ [] ∧ ∀ seg ∈ pcrSegments pcrs, ∃ n, Denotes seg n ∧ 0 ≤ n ∧ n ≤ 23)
      ∧ ∀ out, Machine.parsePcrIndices pcrs = Except.ok out →
        (∃ ns, Values pcrs ns ∧ out.map BitVec.toNat = ns.eraseDups)
          ∧ (∀ n ∈ out, (1#32 <<< n).toNat = 2 ^ n.toNat)
          ∧ (∃ list mask, Machine.buildPcrSelectionList T bank pcrs = Except.ok list
            ∧ T.tpml list = [⟨tpm2Alg bank, 3, mask⟩]
            ∧ mask.length = 3
            ∧ ∀ n, Bits.selects mask n = true ↔ Names pcrs n)
          ∧ ∀ pcrs' out', Machine.parsePcrIndices pcrs' = Except.ok out' →
            (∀ n, Names pcrs n ↔ Names pcrs' n) →
            (Machine.buildPcrSelectionList T bank pcrs).map T.tpml
              = (Machine.buildPcrSelectionList T bank pcrs').map T.tpml := by
  refine ⟨?_, fun out hout => ?_⟩
  · rw [← exists_values_iff]
    constructor
    · rintro ⟨out, hout⟩
      obtain ⟨ns, hvalues, hne, -⟩ := Machine.parsePcrIndices_iff.mp hout
      exact ⟨hvalues.ne_nil_iff.mp hne, ns, hvalues⟩
    · rintro ⟨hne, ns, hvalues⟩
      exact ⟨_, Machine.parsePcrIndices_iff.mpr ⟨ns, hvalues, hvalues.ne_nil_iff.mpr hne, rfl⟩⟩
  · obtain ⟨ns, hvalues, hne, rfl⟩ := Machine.parsePcrIndices_iff.mp hout
    obtain ⟨list, hlist, htpml⟩ := Machine.buildPcrSelectionList_values hT bank hvalues hne
    have hbyte : ∀ n ∈ ns.eraseDups, (BitVec.ofNat 8 n).toNat = n := by
      intro n hn
      have := hvalues.2 n (List.mem_eraseDups.mp hn)
      rw [BitVec.toNat_ofNat, Nat.mod_eq_of_lt (by omega)]
    refine ⟨⟨ns, hvalues, ?_⟩, ?_, ⟨list, _, hlist, htpml, ?_, ?_⟩, ?_⟩
    · rw [List.map_map]
      exact (List.map_congr_left hbyte).trans (List.map_id _)
    · intro n hn
      obtain ⟨m, hm, rfl⟩ := List.mem_map.mp hn
      have := hvalues.2 m (List.mem_eraseDups.mp hm)
      rw [BitVec.shiftLeft_eq', hbyte m hm, Bits.toNat_one_shiftLeft (by omega)]
    · simp [Bits.octets]
    · intro n
      rw [Machine.selects_values hvalues, hvalues.names_iff]
    · intro pcrs' out' hout' hnames
      obtain ⟨ns', hvalues', hne', -⟩ := Machine.parsePcrIndices_iff.mp hout'
      obtain ⟨list', hlist', htpml'⟩ := Machine.buildPcrSelectionList_values hT bank hvalues' hne'
      have hbits : ∀ v, (v ∈ ns.eraseDups.map fun n => 1#32 <<< n)
          ↔ v ∈ ns'.eraseDups.map fun n => 1#32 <<< n := by
        intro v
        simp only [List.mem_map, List.mem_eraseDups, ← hvalues.names_iff, ← hvalues'.names_iff, hnames]
      rw [hlist, hlist', Except.map, Except.map, htpml, htpml', Bits.orAll_congr hbits]

/-- A library as it is documented. -/
def referenceTss : TssEsapi where
  PcrSlot := BitVec 32
  PcrSelectionList := List TpmsPcrSelection
  Error := String
  display := id
  tryFrom v :=
    if (List.range 32).any fun k => v = 1#32 <<< k then Except.ok v
    else Except.error "invalid parameter"
  bits := id
  build size bank slots :=
    if slots.all fun slot => slot.toNat < 2 ^ (8 * size.octets) then
      Except.ok [⟨tpm2Alg bank, size.octets, Bits.octets size.octets (Bits.orAll slots)⟩]
    else Except.error "invalid parameter"
  tpml := id

lemma referenceTss_documented : referenceTss.Documented where
  tryFrom_bit := by
    intro k hk
    refine ⟨1#32 <<< k, if_pos ?_, rfl⟩
    rw [List.any_eq_true]
    exact ⟨k, List.mem_range.mpr (by omega), decide_eq_true rfl⟩
  build_fits := by
    intro size bank (slots : List (BitVec 32)) _ hfits
    have hids : [TpmsPcrSelection.mk (tpm2Alg bank) size.octets
        (Bits.octets size.octets (Bits.orAll slots))]
        = [⟨tpm2Alg bank, size.octets, Bits.octets size.octets (Bits.orAll (slots.map id))⟩] := by
      rw [List.map_id]
    refine ⟨_, if_pos ?_, hids⟩
    exact List.all_eq_true.mpr fun slot hslot => decide_eq_true (hfits slot hslot)

/-- The selection of registers 7 and 11 as the TPM gets it. -/
theorem seven_eleven_selected :
    Machine.buildPcrSelectionList referenceTss HashingAlgorithm.sha256 "7+11"
        = Except.ok [⟨0x000B#16, 3, [0x80#8, 0x08#8, 0x00#8]⟩]
      ∧ ∀ n, Bits.selects [0x80#8, 0x08#8, 0x00#8] n = true ↔ Names "7+11" n := by
  obtain ⟨list, mask, hlist, htpml, -, hmask⟩ :=
    ((selection_exact referenceTss referenceTss_documented HashingAlgorithm.sha256 "7+11").2
      [7#8, 11#8] (by decide +kernel)).2.2.1
  have hbuild : Machine.buildPcrSelectionList referenceTss HashingAlgorithm.sha256 "7+11"
      = Except.ok [⟨0x000B#16, 3, [0x80#8, 0x08#8, 0x00#8]⟩] := by rfl
  have hsame : [TpmsPcrSelection.mk 0x000B#16 3 [0x80#8, 0x08#8, 0x00#8]]
      = [⟨tpm2Alg HashingAlgorithm.sha256, 3, mask⟩] :=
    (Except.ok.inj (hbuild.symm.trans hlist)).trans htpml
  obtain rfl : [0x80#8, 0x08#8, 0x00#8] = mask :=
    congrArg TpmsPcrSelection.pcrSelect (List.cons.inj hsame).1
  exact ⟨hbuild, hmask⟩

end LuksEnroll
