import LuksEnroll.Enrolled
import LuksEnroll.Library.Chunks
import LuksEnroll.PyText

/-!
# Recovery keys

A recovery key is 32 random bytes in modhex, eight groups of eight letters.  The service stores it as
the passphrase of a keyslot and returns it as text; the client looks through the lines of that text
for something that looks like a key and shows it.  The user will type in what was shown.

The key is read back from its groups (`readRecoveryKey_make`), so no two byte strings give one key.
And no byte string makes the client's search go wrong: a key is one line, without blanks at its ends,
long enough and with a dash (`shownKey_make`).

The same text is thus three things: the passphrase that opens the keyslot, the answer of the service,
and the line that the client shows.
-/

namespace LuksEnroll

open Library

/-! ## The client -/

/-- What `_on_enroll_done` puts into the key label, if anything. -/
def shownKey (ok : Bool) (stdout : String) : Option String :=
  if ok = true ∧ stdout ≠ "" then
    (((splitLines stdout.toList).map strip).find? fun line =>
      decide (line ≠ []) && decide (20 < line.length) && decide ('-' ∈ line)).map String.ofList
  else none

/-! ## Reading a key back

Sixteen letters for sixteen digits, in groups with dashes between them.  What was printed can be
read again, so that no two keys print alike.
-/

/-- The two letters of a byte. -/
def modhexPair (b : UInt8) : List Char :=
  [modhex.getD (b.toNat / 16) 'c', modhex.getD (b.toNat % 16) 'c']

lemma makeRecoveryKey_eq (raw : Bytes) : makeRecoveryKey raw
    = String.ofList (List.intercalate ['-'] ((raw.flatMap modhexPair).toChunks 8)) := rfl

/-- Modhex pairs. -/
def readModhex : List Char → Option Bytes
  | [] => some []
  | [_] => none
  | a :: b :: cs => do
      let high ← modhex.idxOf? a
      let low ← modhex.idxOf? b
      let rest ← readModhex cs
      return UInt8.ofNat (high * 16 + low) :: rest

/-- A key without its dashes, as bytes. -/
def readRecoveryKey (key : String) : Option Bytes :=
  readModhex (key.toList.filter fun c => decide (c ≠ '-'))

lemma modhex_getD_mem {i : ℕ} (hi : i < 16) : modhex.getD i 'c' ∈ modhex := by
  have hall : ∀ j : Fin 16, modhex.getD j.val 'c' ∈ modhex := by decide
  exact hall ⟨i, hi⟩

lemma idxOf_modhex {i : ℕ} (hi : i < 16) : modhex.idxOf? (modhex.getD i 'c') = some i := by
  have hall : ∀ j : Fin 16, modhex.idxOf? (modhex.getD j.val 'c') = some j.val := by decide
  exact hall ⟨i, hi⟩

lemma modhexPair_mem {b : UInt8} {c : Char} (hc : c ∈ modhexPair b) : c ∈ modhex := by
  have hb := b.toNat_lt
  simp only [modhexPair, List.mem_cons, List.not_mem_nil, or_false] at hc
  rcases hc with rfl | rfl
  · exact modhex_getD_mem (by omega)
  · exact modhex_getD_mem (by omega)

lemma readModhex_flatMap (raw : Bytes) : readModhex (raw.flatMap modhexPair) = some raw := by
  induction raw with
  | nil => rfl
  | cons b raw ih =>
      have hb := b.toNat_lt
      have hhigh := idxOf_modhex (i := b.toNat / 16) (by omega)
      have hlow := idxOf_modhex (i := b.toNat % 16) (by omega)
      have hbyte : b.toNat / 16 * 16 + b.toNat % 16 = b.toNat := by omega
      rw [List.flatMap_cons, modhexPair, List.cons_append, List.cons_append, List.nil_append,
        readModhex, hhigh, hlow, ih]
      show some (UInt8.ofNat (b.toNat / 16 * 16 + b.toNat % 16) :: raw) = some (b :: raw)
      rw [hbyte, UInt8.ofNat_toNat]

/-- The letters of a key are no dashes, no blanks and no line breaks. -/
lemma modhex_plain {c : Char} (hc : c ∈ modhex) :
    c ≠ '-' ∧ isPySpace c = false ∧ isLineBoundary c = false := by
  have hall : modhex.all (fun d => decide (d ≠ '-') && !isPySpace d && !isLineBoundary d) = true := by
    decide
  simpa [and_assoc] using List.all_eq_true.mp hall c hc

section

variable {raw : Bytes} (hraw : raw.length = 32)

include hraw

/-- **Eight groups of eight letters.** -/
lemma makeRecoveryKey_groups : ∃ groups : List (List Char),
    groups.length = 8 ∧ (∀ g ∈ groups, g.length = 8 ∧ ∀ c ∈ g, c ∈ modhex)
      ∧ groups.flatten = raw.flatMap modhexPair
      ∧ makeRecoveryKey raw = String.ofList (List.intercalate ['-'] groups) := by
  have hlength : (raw.flatMap modhexPair).length = 8 * 8 := by
    simp [List.length_flatMap, modhexPair, hraw]
  obtain ⟨hcount, hsizes, hjoin⟩ := toChunks_length (by omega) 8 hlength
  refine ⟨_, hcount, fun g hg => ⟨hsizes g hg, fun c hc => ?_⟩, hjoin, makeRecoveryKey_eq raw⟩
  have hin : c ∈ raw.flatMap modhexPair := by
    rw [← hjoin]
    exact List.mem_flatten.mpr ⟨g, hg, hc⟩
  obtain ⟨b, -, hb⟩ := List.mem_flatMap.mp hin
  exact modhexPair_mem hb

/-- **A key gives back its bytes.** -/
lemma readRecoveryKey_make : readRecoveryKey (makeRecoveryKey raw) = some raw := by
  obtain ⟨groups, -, hgroups, hjoin, hkey⟩ := makeRecoveryKey_groups hraw
  have hnodash : (raw.flatMap modhexPair).filter (fun c => decide (c ≠ '-'))
      = raw.flatMap modhexPair := by
    refine List.filter_eq_self.mpr fun c hc => ?_
    obtain ⟨b, -, hb⟩ := List.mem_flatMap.mp hc
    simpa using (modhex_plain (modhexPair_mem hb)).1
  rw [readRecoveryKey, hkey, String.toList_ofList, filter_intercalate, hjoin, hnodash]
  exact readModhex_flatMap raw

/-- **The client shows the key it is sent.** -/
lemma shownKey_make : shownKey true (makeRecoveryKey raw) = some (makeRecoveryKey raw) := by
  obtain ⟨groups, hcount, hgroups, hjoin, hkey⟩ := makeRecoveryKey_groups hraw
  have hplain : ∀ c ∈ List.intercalate ['-'] groups, isPySpace c = false ∧ isLineBoundary c = false := by
    intro c hc
    rcases mem_intercalate hc with rfl | ⟨g, hg, hcg⟩
    · decide
    · exact (modhex_plain ((hgroups g hg).2 c hcg)).2
  have hlong : 20 < (List.intercalate ['-'] groups).length := by
    have hletters : groups.flatten.length = 64 := by
      rw [hjoin]
      simp [List.length_flatMap, modhexPair, hraw]
    rw [length_intercalate, hletters]
    omega
  have hdash : '-' ∈ List.intercalate ['-'] groups := sep_mem_intercalate (by omega)
  have hne : List.intercalate ['-'] groups ≠ [] := List.ne_nil_of_mem hdash
  have htext : makeRecoveryKey raw ≠ "" := by
    rw [hkey]
    intro h
    exact hne (by simpa using congrArg String.toList h)
  rw [shownKey, if_pos ⟨rfl, htext⟩, hkey, String.toList_ofList,
    splitLines_of_notBoundary hne fun c hc => (hplain c hc).2, List.map_singleton,
    strip_of_notSpace fun c hc => (hplain c hc).1]
  simp [hne, hlong, hdash]

end

/-- **Recovery keys.**  As a function of its 32 bytes a key gives them back, so different bytes give
different keys, and it has eight groups of eight letters.  Whenever an enrollment reports success, the
text it returns is the key of the random bytes it drew; the new keyslot opens with that text; and that
text is what the client shows. -/
theorem recovery_key_shown :
    ((∀ raw : Vector UInt8 32, readRecoveryKey (makeRecoveryKey raw.toList) = some raw.toList)
      ∧ Function.Injective (fun raw : Vector UInt8 32 => makeRecoveryKey raw.toList)
      ∧ ∀ raw : Vector UInt8 32, ∃ groups : List (List Char), groups.length = 8
        ∧ (∀ g ∈ groups, g.length = 8 ∧ ∀ c ∈ g, c ∈ modhex)
        ∧ makeRecoveryKey raw.toList = String.ofList (List.intercalate ['-'] groups))
    ∧ ∀ (device passphrase unlockMethod unlockPin : String) (who : Option ℕ) (os : ℕ → Oracle)
        (w : World) (h : Header) (out err : String), w.header device = some h →
      ((opEnrollRecoveryKey device passphrase unlockMethod unlockPin).run (exec who) os w).1
        = Except.ok (true, out, err) →
      out = makeRecoveryKey ((os 0).random 32) ∧ shownKey true out = some out
        ∧ ∃ h', ((opEnrollRecoveryKey device passphrase unlockMethod unlockPin).run
            (exec who) os w).2.header device = some h'
          ∧ TokenEnrolled tokenTypeRecovery (asBytes out) h h' := by
  have hread : ∀ raw : Vector UInt8 32,
      readRecoveryKey (makeRecoveryKey raw.toList) = some raw.toList :=
    fun raw => readRecoveryKey_make raw.length_toList
  refine ⟨⟨hread, fun raw raw' hkey => ?_, fun raw => ?_⟩, ?_⟩
  · have hbytes := (hread raw).symm.trans ((congrArg readRecoveryKey hkey).trans (hread raw'))
    exact Vector.toList_inj.mp (Option.some.inj hbytes)
  · obtain ⟨groups, hcount, hgroups, -, hkey⟩ := makeRecoveryKey_groups raw.length_toList
    exact ⟨groups, hcount, hgroups, hkey⟩
  · intro device passphrase unlockMethod unlockPin who os w h out err hh hok
    obtain ⟨hout, hstored⟩ := enrollRecoveryKey_stored hh hok
    refine ⟨hout, ?_, hstored⟩
    rw [hout]
    exact shownKey_make (by simp [Oracle.random])

/-- The theorem covers an enrollment that succeeds. -/
theorem zero_key_shown :
    makeRecoveryKey (List.replicate 32 0) = makeRecoveryKey ((Oracle.quiet).random 32)
      ∧ shownKey true (makeRecoveryKey (List.replicate 32 0))
        = some (makeRecoveryKey (List.replicate 32 0))
      ∧ ∃ h', ((opEnrollRecoveryKey "/dev/sdb1" "pw" "passphrase" "").run (exec none)
            (fun _ => Oracle.quiet) onePassphrase).2.header "/dev/sdb1" = some h'
          ∧ ∃ h, onePassphrase.header "/dev/sdb1" = some h
            ∧ TokenEnrolled tokenTypeRecovery (asBytes (makeRecoveryKey (List.replicate 32 0))) h h' := by
  obtain ⟨hout, hshown, h', hh', hstored⟩ := recovery_key_shown.2 "/dev/sdb1" "pw" "passphrase" ""
    none (fun _ => Oracle.quiet) onePassphrase _ _ "" rfl
    (by decide +kernel : _ = Except.ok (true, makeRecoveryKey (List.replicate 32 0), ""))
  exact ⟨hout, hshown, h', hh', _, rfl, hstored⟩

end LuksEnroll
