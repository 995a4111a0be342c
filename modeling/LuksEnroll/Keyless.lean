import LuksEnroll.Service

/-!
# Volumes without a keyslot

A keyless format writes a header with no keyslot and leaves the volume key in the cache, for the
first enrollment to wrap.  `format_luks2_keyless` calls that safe because such a volume "cannot be
mounted through the normal (keyslot) path"; but `activate_volume` takes its key from the same
cache, so until the entry expires the volume can be opened, and what is then written to it has no
keyslot to come back through (`keyless_volume_opened`).

Without a cached key there is no other road: a volume is mapped only if one of its keyslots gave
up the key.

The theorem is about a whole run from a service just started: every mapping there is was made over a
header with a keyslot, as long as each `OpenVolume` found a keyslot at its device or no key in the
cache.
-/

namespace LuksEnroll

open Library
open Prog (AllCalls)

variable {who : Option ℕ} {A : Oracle → Prop}

/-! ## Mappings

A mapping is made by one command, and no other touches the header it is over.
-/

/-- Every mapping was set up on a header that had a keyslot. -/
def World.MappedWithKeyslot (w : World) : Prop :=
  ∀ name m, w.mappings name = some m → 0 < m.keyslots

def Cmd.Activates : Cmd → Prop
  | Cmd.activateByVolumeKey _ _ _ => True
  | _ => False

lemma exec_mappings {c : Cmd} (hc : ¬ c.Activates) {o : Oracle} {w : World} {name : String}
    {m : Mapping} (hm : (exec who c o w).2.mappings name = some m) : w.mappings name = some m := by
  have hstored : ∀ {v : World}, (∃ luks, v = { w with now := w.now + o.elapsed, luks := luks }) →
      v.mappings name = some m → w.mappings name = some m := by
    rintro v ⟨luks, rfl⟩ hv
    exact hv
  cases c with
  | cacheGet device =>
      rw [← (cacheGet_sameDisk { w with now := w.now + o.elapsed } device).mappings]
      exact hm
  | addByKey device vk pw => exact hstored (World.update_stored _ _ _ _) hm
  | tokenJsonSet device input => exact hstored (World.update_stored _ _ _ _) hm
  | keyslotDestroy device slot => exact hstored (World.update_stored _ _ _ _) hm
  | format device vk => exact hstored (World.format_stored _ _ _ _) hm
  | activateByVolumeKey device name vk => exact (hc trivial).elim
  | deactivate n =>
      simp only [exec, answer] at hm
      split at hm
      · exact hm
      · by_cases hn : name = n
        · simp [hn] at hm
        · simpa [Function.update_of_ne hn] using hm
  | createFile path =>
      simp only [exec, answer] at hm
      rcases World.createFile_cases { w with now := w.now + o.elapsed } o path with
        hsame | ⟨-, hnew⟩ | ⟨i, -, hold⟩
      · rwa [hsame] at hm
      · rwa [hnew] at hm
      · rwa [hold] at hm
  | chown path uid gid =>
      simp only [exec, answer] at hm
      split at hm <;> exact hm
  | wipefs device => exact hstored (World.write_stored _ _ _) hm
  | writeAll path offset bytes => exact hstored (World.write_stored _ _ _) hm
  | gptZapAndPartition device => exact hstored (World.write_stored _ _ _) hm
  | partprobe device =>
      simp only [exec, answer, World.partprobe] at hm
      split at hm
      · split_ifs at hm <;> exact hm
      · exact hm
  | _ => exact hm

lemma keeps_of_not_activates {α : Type} {p : Op α} (hp : p.AllCalls fun c => ¬ c.Activates) :
    p.Keeps (exec who) A World.MappedWithKeyslot :=
  Prog.Keeps.of_allCalls (fun _ _ _ hc _ hw name m hm => hw name m (exec_mappings hc hm)) hp

/-! ## Opening

`OpenVolume` asks the cache first; if the key is there, the header is not asked for a keyslot.
-/

/-- **The condition on a request**: no volume is opened whose header has no keyslot while its
volume key is in the cache. -/
def OpensWithKeyslot (w : World) (r : Request) (_ : ℕ → Oracle) : Prop :=
  ∀ device name passphrase unlockMethod unlockPin h,
    r = Request.openVolume device name passphrase unlockMethod unlockPin →
    validMapperName name = true → w.mappings name = none → validUnlockMethod unlockMethod = true →
    w.header device = some h → w.cachedKey device = some h.volumeKey →
    ∃ i, (h.keyslots i).isSome

lemma activate_mappings {device name : String} {vk : VolumeKey} {o : Oracle} {w : World}
    (hvk : ∀ h, w.header device = some h → h.volumeKey = vk → w.mappings name = none →
      ∃ i, (h.keyslots i).isSome) (hw : w.MappedWithKeyslot) :
    (exec who (Cmd.activateByVolumeKey device name vk) o w).2.MappedWithKeyslot := by
  intro n m hm
  simp only [exec, answer, World.activate] at hm
  split at hm
  · exact hw n m hm
  split at hm
  · exact hw n m hm
  rename_i i hi
  split at hm
  · exact hw n m hm
  rename_i h hh
  split_ifs at hm with hact
  · by_cases hn : n = name
    · subst hn
      obtain ⟨j, hj⟩ := hvk h (by simp [World.header, hi, hh]) hact.1.symm
        (Option.isNone_iff_eq_none.mp hact.2)
      simp only [Function.update_self, Option.some.injEq] at hm
      subst hm
      exact List.length_pos_of_mem (Header.mem_slotIds.mpr hj)
    · exact hw n m (by simpa [Function.update_of_ne hn] using hm)
  · exact hw n m hm

/-- The mapping of an `OpenVolume`: the key came out of a keyslot, or out of the cache, and then
the condition provides one. -/
lemma activateVolume_mappings {device name passphrase unlockMethod unlockPin : String} {w : World}
    {os : ℕ → Oracle} (hw : w.MappedWithKeyslot) (hopen : OpensWithKeyslot w
      (Request.openVolume device name passphrase unlockMethod unlockPin) os) :
    (activateVolume device name unlockMethod passphrase unlockPin).wp (exec who) A
      (fun _ w' => w'.MappedWithKeyslot) w := by
  rw [activateVolume]
  split_ifs with hname
  · intro o _
    have hlater : w.Later (exec who (Cmd.status name) o w).2 := ⟨o.elapsed, rfl⟩
    show Prog.wp _ _ _ (if (exec who (Cmd.status name) o w).1 = true then _ else _ : Op Unit) _
    generalize (exec who (Cmd.status name) o w).2 = v at hlater
    split_ifs
    · obtain ⟨d, rfl⟩ := hlater
      exact hw
    refine Prog.wp_bind (Prog.wp_mono (fun x v₁ hx => ?_)
      (getVolumeKey_key unlockMethod passphrase unlockPin v))
    obtain ⟨hfrom, hkey⟩ := hx
    have hdisk := ((hlater.cachedFrom device).trans hfrom).disk
    cases x with
    | error e => exact fun n m hm => hw n m (by rwa [hdisk.mappings] at hm)
    | ok vk =>
        refine Prog.wp_bind (Prog.wp_mono (fun y v₂ hlater₂ => ?_)
          (wp_looksOn (openLuks2_looks device) v₁))
        have hdisk₂ := hdisk.trans (hlater₂.cachedFrom device).disk
        have hw₂ : v₂.MappedWithKeyslot := fun n m hm => hw n m (by rwa [hdisk₂.mappings] at hm)
        cases y with
        | error e => exact hw₂
        | ok loaded =>
            have hslot : ∀ h, v₂.header device = some h → h.volumeKey = vk →
                v₂.mappings name = none → ∃ i, (h.keyslots i).isSome := by
              intro h hh hvk hfree
              rw [hdisk₂.header] at hh
              rw [hdisk₂.mappings] at hfree
              obtain ⟨hvalid, hcached | ⟨h', hh', -, hi⟩⟩ := hkey vk rfl
              · have hcached' : w.cachedKey device = some h.volumeKey := by
                  obtain ⟨d, rfl⟩ := hlater
                  rw [hvk]
                  exact live_of_later (Nat.le_add_right _ _) hcached
                exact hopen _ _ _ _ _ h rfl hname hfree hvalid hh hcached'
              · rw [hlater.header] at hh'
                obtain rfl : h' = h := Option.some.inj (hh'.symm.trans hh)
                exact hi
            refine wp_ask_orFail_last (c := Cmd.activateByVolumeKey device name vk) (r := id)
              (fun o _ _ _ => ?_) (fun o _ _ _ => ?_)
            · exact activate_mappings hslot hw₂
            · exact activate_mappings hslot hw₂
  · exact hw

/-! ## Every run

Requests one after another, where every `OpenVolume` finds a keyslot or no key.
-/

lemma body_not_activates {r : Request} (hr : ∀ device name passphrase unlockMethod unlockPin,
      r ≠ Request.openVolume device name passphrase unlockMethod unlockPin) :
    r.body.AllCalls fun c => ¬ c.Activates := by
  have hformats : ∀ {targets : List String} (c : Cmd), c.FormatsOn targets True → ¬ c.Activates := by
    intro targets c hc hact
    cases c <;> first | exact hact | exact hc
  have hcloses : ∀ c : Cmd, c.Closes → ¬ c.Activates := by
    intro c hc hact
    cases c <;> first | exact hact | exact hc
  have hreads : ∀ {device : String} (c : Cmd), c.ReadsOn device → ¬ c.Activates := by
    intro device c hc hact
    cases c <;> first | exact hact | exact hc
  have htouches : ∀ {device : String} (c : Cmd), c.TouchesOn device → ¬ c.Activates := by
    rintro device c (hc | ⟨vk, pw, rfl⟩ | ⟨input, rfl⟩ | ⟨slot, rfl⟩)
    · exact hreads c hc
    · exact fun hact => hact
    · exact fun hact => hact
    · exact fun hact => hact
  cases r with
  | slot r => exact AllCalls.bind (r.body_touches.mono htouches) fun _ => trivial
  | verifyPassphrase device passphrase =>
      exact AllCalls.bind ((verifyPassphrase_reads device passphrase).mono hreads) fun _ => trivial
  | unlockWithToken device tokenType pin =>
      exact AllCalls.bind ((verifyToken_reads device tokenType pin).mono hreads) fun _ => trivial
  | openVolume device name passphrase unlockMethod unlockPin => exact (hr _ _ _ _ _ rfl).elim
  | closeVolume name =>
      refine AllCalls.bind (AllCalls.bind ((deactivateVolume_closes name).mono hcloses).attempt
        fun x => ?_) fun _ => trivial
      cases x <;> trivial
  | closeVolumeFd found => exact (deactivateVolumes_closes found).mono hcloses
  | createEncryptedImage realPath sizeMb passphrase owner =>
      exact AllCalls.bind ((opCreateEncryptedImage_formats sizeMb owner fun _ => trivial).mono
        hformats) fun _ => trivial
  | createImageFd path passphrase =>
      exact AllCalls.bind (runCreate_allCalls ((formatsOn_of_at (List.mem_singleton_self path)
        (formatContainer_formats fun _ => trivial)).mono hformats)) fun _ => trivial
  | formatPartition device passphrase =>
      have hformat : (formatRemovablePartition device passphrase).AllCalls
          fun c => ¬ c.Activates := by
        refine AllCalls.bind (AllCalls.bind (allCalls_ask.mpr fun hact => hact) fun _ => trivial)
          fun removable => ?_
        cases removable with
        | false => trivial
        | true =>
            exact AllCalls.bind (allCalls_ask.mpr fun hact => hact) fun partition =>
              (formatDevice_formats device partition fun _ => trivial).mono hformats
      refine AllCalls.bind (AllCalls.bind hformat.attempt fun x => ?_) fun _ => trivial
      cases x <;> trivial

/-- **Volumes are opened by keyslot.**  In every run of the service that starts without mappings and
in which no volume without a keyslot is opened from the cache, every mapping there is was set up
on a header that had a keyslot. -/
theorem mapped_volumes_have_keyslot {w : World} (hw : ∀ name, w.mappings name = none)
    (xs : List Served) (hxs : Serving OpensWithKeyslot xs w) :
    ∀ name m, (serve xs w).mappings name = some m → 0 < m.keyslots := by
  refine Prog.runAll_invariant (I := World.MappedWithKeyslot) ?_ ?_ hxs
  · intro v r os hv hopen
    have hkeeps : r.body.wp (exec none) (fun _ => True) (fun _ v' => v'.MappedWithKeyslot) v := by
      by_cases hr : ∃ device name passphrase unlockMethod unlockPin,
          r = Request.openVolume device name passphrase unlockMethod unlockPin
      · obtain ⟨device, name, passphrase, unlockMethod, unlockPin, rfl⟩ := hr
        refine Prog.wp_bind (Prog.wp_bind (Prog.wp_attempt (Prog.wp_mono (fun x v' hv' => ?_)
          (activateVolume_mappings hv hopen))))
        cases x <;> exact hv'
      · refine keeps_of_not_activates (body_not_activates fun d n p u k hopen => hr ?_) v hv
        exact ⟨d, n, p, u, k, hopen⟩
    exact Prog.wp_sound hkeeps os fun _ => trivial
  · intro name m hm
    simp [hw name] at hm

/-! ## A keyless volume, opened

Created without a passphrase, and opened from the cache.
-/

/-- A service just started, and nothing on the disk. -/
def emptyDisk : World := World.start (FileSystem.ofList [] []) fun _ => none

/-- A container is created without a passphrase and opened right away, with an empty one. -/
def createKeylessAndOpen : List Served :=
  [(Request.createEncryptedImage "/tmp/box" 16 "" (some (1000, 1000)), fun _ => Oracle.quiet),
    (Request.openVolume "/tmp/box" "box" "" "passphrase" "", fun _ => Oracle.quiet)]

/-- **The container is mapped although its header has no keyslot.** -/
theorem keyless_volume_opened :
    ((serve createKeylessAndOpen emptyDisk).header "/tmp/box").map Header.slotIds = some []
      ∧ ((serve createKeylessAndOpen emptyDisk).mappings "box").map Mapping.keyslots = some 0 := by
  refine ⟨?_, ?_⟩ <;> decide +kernel

/-- The same container with a passphrase. -/
def createAndOpen : List Served :=
  [(Request.createEncryptedImage "/tmp/box" 16 "pw" (some (1000, 1000)), fun _ => Oracle.quiet),
    (Request.openVolume "/tmp/box" "box" "pw" "passphrase" "", fun _ => Oracle.quiet)]

/-- It is mapped, and by its keyslot. -/
theorem passphrase_volume_mapped :
    ((serve createAndOpen emptyDisk).mappings "box").isSome = true
      ∧ ∀ name m, (serve createAndOpen emptyDisk).mappings name = some m → 0 < m.keyslots := by
  refine ⟨by decide +kernel, mapped_volumes_have_keyslot (fun _ => rfl) createAndOpen ⟨?_, ?_, trivial⟩⟩
  · rintro device name passphrase unlockMethod unlockPin h ⟨⟩
  · rintro device name passphrase unlockMethod unlockPin h hr - - - hh -
    obtain ⟨rfl, -⟩ := Request.openVolume.inj hr
    have hcreated : ((serve (createAndOpen.take 1) emptyDisk).header "/tmp/box").map
        (fun h => (h.keyslots 0).isSome) = some true := by decide +kernel
    obtain ⟨h', hh', hslot⟩ := Option.map_eq_some_iff.mp hcreated
    obtain rfl : h' = h := Option.some.inj (hh'.symm.trans hh)
    exact ⟨0, hslot⟩

end LuksEnroll
