import LuksEnroll.Overwriting

/-!
# The volume-key cache and the disk

The cache is right when every unexpired entry is the volume key of the header its path leads to.
Unlocking fills it from that very header, keyslots and tokens come and go without touching the
key, and a keyless format caches the key it has just written.

A format with a passphrase does none of this: the entry of an earlier key stays, and a later wipe
or enrollment is served from it (`passphrase_format_leaves_stale_key`).  So formats are what a run
has to be careful about: nothing they overwrite may have an unexpired entry, except the one that a
keyless format replaces.

A format may be spared (`Spared`): no unexpired entry belongs to an object that it reaches, or only the
entry that it replaces itself, when no call fails.  `cached_keys_current` asks this of every format of a
run; all other requests keep the cache right whatever happens to them.
-/

namespace LuksEnroll

open Library
open Prog (AllCalls)

variable {who : Option ℕ} {A : Oracle → Prop} {device : String} {α : Type}

/-- Every unexpired entry is the volume key of the header that its path leads to. -/
def World.CacheAgrees (w : World) : Prop :=
  ∀ p vk, live w.now (w.cache p) = some vk → ∃ h, w.header p = some h ∧ h.volumeKey = vk

/-! ## Commands that leave keys alone

Most commands change neither a volume key nor the name of a path.
-/

/-- The cache agrees after a step that leaves time, entries and keys as they are, or better. -/
lemma World.CacheAgrees.kept {w w' : World} (hw : w.CacheAgrees) (hnow : w.now ≤ w'.now)
    (hcache : ∀ p vk, live w'.now (w'.cache p) = some vk → live w'.now (w.cache p) = some vk)
    (hheader : ∀ p h, w.header p = some h → ∃ h', w'.header p = some h'
      ∧ h'.volumeKey = h.volumeKey) : w'.CacheAgrees := by
  intro p vk hlive
  obtain ⟨h, hh, hvk⟩ := hw p vk (live_of_later hnow (hcache p vk hlive))
  obtain ⟨h', hh', hvk'⟩ := hheader p h hh
  exact ⟨h', hh', hvk'.trans hvk⟩

lemma World.CacheAgrees.later {w w' : World} (hw : w.CacheAgrees) (h : w.Later w') :
    w'.CacheAgrees := by
  obtain ⟨d, rfl⟩ := h
  exact hw.kept (Nat.le_add_right _ _) (fun p vk h => h) fun p h hh => ⟨h, hh, rfl⟩

/-- Unlocking fills the cache from the header. -/
lemma World.CacheAgrees.cachedFrom {w w' : World} (hw : w.CacheAgrees)
    (h : w.CachedFrom device w') : w'.CacheAgrees := by
  intro p vk hlive
  simp only [h.disk.header]
  rcases h.entries p vk hlive with hold | ⟨rfl, loaded, hh, hvk, -⟩
  · exact hw p vk hold
  · refine ⟨loaded, ?_, hvk⟩
    rw [World.header, w.fs.node_cacheKey]
    exact hh

/-- A header write that keeps the volume key. -/
lemma World.CacheAgrees.update {w : World} (hw : w.CacheAgrees) {o : Oracle}
    {f : Header → Except String (α × Header)}
    (hf : ∀ h a h', f h = Except.ok (a, h') → h'.volumeKey = h.volumeKey) :
    (w.update device o f).2.CacheAgrees := by
  have hkeeps : ∀ p h, w.header p = some h → ∃ h', (w.update device o f).2.header p = some h'
      ∧ h'.volumeKey = h.volumeKey := by
    intro p h hp
    rcases World.update_cases w device o f with ⟨h₀, a, h₁, -, -, hfh, -, hwrote⟩ | ⟨e, hres, -⟩
    · obtain ⟨j, hj, hluks⟩ := Option.bind_eq_some_iff.mp hp
      rw [World.header, hwrote.fs, hj]
      rcases hwrote.luks_cases hluks with ⟨-, hafter⟩ | ⟨rfl, -, hafter⟩
      · exact ⟨h, hafter, rfl⟩
      · exact ⟨h₁, hafter, hf _ a h₁ hfh⟩
    · rw [hres]
      exact ⟨h, hp, rfl⟩
  obtain ⟨luks, hstored⟩ := World.update_stored w device o f
  rw [hstored] at hkeeps ⊢
  exact hw.kept le_rfl (fun p vk h => h) hkeeps

/-- Everything but caching, formatting, raw writes and new files. -/
def Cmd.LeavesKeys : Cmd → Prop
  | Cmd.cacheInsert _ _ => False
  | Cmd.format _ _ => False
  | Cmd.createFile _ => False
  | Cmd.writeAll _ _ _ => False
  | Cmd.wipefs _ => False
  | Cmd.gptZapAndPartition _ => False
  | Cmd.partprobe _ => False
  | _ => True

/-- A command that leaves the keys alone keeps the cache right. -/
lemma exec_cacheAgrees {c : Cmd} (hc : c.LeavesKeys) (o : Oracle) {w : World}
    (hw : w.CacheAgrees) : (exec who c o w).2.CacheAgrees := by
  have hlater : World.CacheAgrees { w with now := w.now + o.elapsed } := hw.later ⟨o.elapsed, rfl⟩
  cases c with
  | cacheGet d => exact hw.cachedFrom (cacheGet_cachedFrom o w)
  | addByKey d vk pw =>
      refine hlater.update fun h a h' hadd => ?_
      obtain ⟨-, -, -, -, -, hvk⟩ := addByKey_ok hadd
      exact hvk
  | tokenJsonSet d input => exact hlater.update fun h a h' hset => (jsonSet_keeps hset).2
  | keyslotDestroy d slot =>
      exact hlater.update fun h a h' hd => (Header.destroyKeyslot_spec (keyslotDestroy_ok hd)).2.2.2
  | activateByVolumeKey d name vk =>
      simp only [exec, answer, World.activate]
      split
      · exact hlater
      split
      · exact hlater
      split
      · exact hlater
      split_ifs
      · exact hlater.kept le_rfl (fun p vk h => h) fun p h hh => ⟨h, hh, rfl⟩
      · exact hlater
  | deactivate name =>
      simp only [exec, answer]
      split
      · exact hlater
      · exact hlater.kept le_rfl (fun p vk h => h) fun p h hh => ⟨h, hh, rfl⟩
  | chown path uid gid =>
      simp only [exec, answer]
      split
      · exact hlater.kept le_rfl (fun p vk h => h) fun p h hh => ⟨h, hh, rfl⟩
      · exact hlater
  | _ => first | exact hlater | exact hc.elim

lemma keeps_cacheAgrees {p : Op α} (hp : p.AllCalls Cmd.LeavesKeys) :
    p.Keeps (exec who) A World.CacheAgrees :=
  Prog.Keeps.of_allCalls (fun _ o _ hc _ hw => exec_cacheAgrees hc o hw) hp

lemma Cmd.LooksOn.leavesKeys {c : Cmd} (hc : c.LooksOn device) : c.LeavesKeys := by
  cases c <;> trivial

lemma leavesKeys_of_looks {p : Op α} (hp : p.AllCalls (Cmd.LooksOn device)) :
    p.AllCalls Cmd.LeavesKeys := hp.mono fun _ => Cmd.LooksOn.leavesKeys

/-- Unlocking caches the key of the very header that it opened. -/
lemma getVolumeKey_keeps (unlockMethod passphrase unlockPin : String) :
    (getVolumeKey device unlockMethod passphrase unlockPin).Keeps (exec who) A
      World.CacheAgrees := fun w hw =>
  Prog.wp_mono (fun _ _ hx => hw.cachedFrom hx.1) (getVolumeKey_key unlockMethod passphrase unlockPin w)

/-! ## Enrollments and wipes

The requests on keyslots issue no others, except for the lookup that caches the key of the header it
has just opened.
-/

/-- The writes of an enrollment or of a wipe. -/
lemma leavesKeys_of_writes {p : Op α} {Q : Cmd → Prop}
    (hp : p.AllCalls (Cmd.Either (Cmd.LooksOn device) Q)) (hQ : ∀ c, Q c → c.LeavesKeys) :
    p.AllCalls Cmd.LeavesKeys := hp.mono fun c hc => hc.elim Cmd.LooksOn.leavesKeys (hQ c)

lemma enrollToken_keeps {prepare : Op Prepared} (hp : prepare.AllCalls (Cmd.LooksOn device))
    (unlockMethod unlockPin passphrase : String) :
    (enrollToken device unlockMethod unlockPin passphrase prepare).Keeps (exec who) A
      World.CacheAgrees := by
  refine Prog.Keeps.bind (keeps_cacheAgrees (leavesKeys_of_looks hp)) fun prepared => ?_
  refine Prog.Keeps.bind (getVolumeKey_keeps _ _ _) fun vk => ?_
  refine Prog.Keeps.bind (keeps_cacheAgrees (leavesKeys_of_writes
    (addKeyslotByVolumeKey_issues (Q := Cmd.LeavesKeys) _ trivial) fun c hc => hc)) fun slot => ?_
  refine keeps_cacheAgrees (leavesKeys_of_writes (either_looks (storeToken_issues _ _ _)) ?_)
  rintro c rfl
  trivial

/-- An answer as a triple is no further step. -/
lemma runOp_keeps {I : World → Prop} {body : Op Triple} (hb : body.Keeps (exec who) A I) :
    (runOp body).Keeps (exec who) A I := by
  refine Prog.Keeps.bind hb.attempt fun x => ?_
  cases x with
  | ok t => exact Prog.Keeps.ret _
  | error e => exact Prog.Keeps.ret _

/-- Every request on the keyslots keeps the cache right. -/
lemma slotRequest_keeps (r : SlotRequest) : r.body.Keeps (exec who) A World.CacheAgrees := by
  cases r with
  | enrollFido2 device passphrase pin fido2Device unlockMethod unlockPin =>
      refine runOp_keeps (Prog.Keeps.bind (keeps_cacheAgrees (leavesKeys_of_looks
        (alreadyEnrolled_looks device fido2Device))) fun enrolled => ?_)
      cases enrolled with
      | true => exact Prog.Keeps.ret _
      | false => exact enrollToken_keeps (prepareFido2_looks _ _) _ _ _
  | enrollTpm2 device passphrase pin pcrs unlockMethod unlockPin =>
      exact runOp_keeps (enrollToken_keeps (prepareTpm2_looks _ _) _ _ _)
  | enrollRecoveryKey device passphrase unlockMethod unlockPin =>
      exact runOp_keeps (enrollToken_keeps prepareRecoveryKey_looks _ _ _)
  | enrollPassphrase device existing new unlockMethod unlockPin =>
      refine runOp_keeps (Prog.Keeps.bind (getVolumeKey_keeps _ _ _) fun vk => ?_)
      exact Prog.Keeps.bind (keeps_cacheAgrees (leavesKeys_of_writes
        (addKeyslotByVolumeKey_issues (Q := Cmd.LeavesKeys) _ trivial) fun c hc => hc)) fun slot =>
          Prog.Keeps.ret _
  | wipeSlot device passphrase unlockMethod pin slot =>
      refine runOp_keeps (Prog.Keeps.bind (getVolumeKey_keeps _ _ _) fun vk => ?_)
      refine Prog.Keeps.bind (keeps_cacheAgrees (leavesKeys_of_looks (listKeyslots_looks device)))
        fun slots => ?_
      split_ifs
      · exact Prog.Keeps.ret _
      · refine keeps_cacheAgrees (leavesKeys_of_writes (either_looks (wipeRest_issues device _)) ?_)
        rintro c (⟨id, rfl⟩ | rfl)
        · trivial
        · trivial

/-! ## Formats

A format writes a new key.  What it may overwrite, and what it puts in the cache, is weighed here
against the entries that are there.
-/

/-- Nothing with an unexpired entry is overwritten, except what a keyless format of `path`, with no
call failing, puts back under the same name. -/
def Spared (A : Oracle → Prop) (targets : List String) (path passphrase : String) (w : World) :
    Prop :=
  ∀ p vk j, live w.now (w.cache p) = some vk → w.fs.node p = some j → w.Reached targets j →
    passphrase = "" ∧ p = w.fs.cacheKey path ∧ ¬ Faulty A

section Formats

variable {targets : List String} {path passphrase : String} {w v : World}

/-- The cache still agrees where nothing cached was overwritten. -/
lemma Formatting.cacheAgrees {w' : World} (hf : Formatting targets w w') (hw : w.CacheAgrees)
    (hnone : ∀ p vk j, live w.now (w.cache p) = some vk → w.fs.node p = some j →
      ¬ w.Reached targets j) : w'.CacheAgrees := by
  intro p vk hlive
  rw [hf.cache] at hlive
  have hlive := live_of_later hf.now_le hlive
  obtain ⟨h, hh, hvk⟩ := hw p vk hlive
  obtain ⟨j, hj, hluks⟩ := Option.bind_eq_some_iff.mp hh
  refine ⟨h, ?_, hvk⟩
  rw [World.header, hf.node p j hj, Option.bind_some,
    hf.luks j (w.fs.node_lt p j hj) (hnone p vk j hlive hj), hluks]

/-- A format that fails has overwritten nothing cached, if it was spared: it would have put the
entry back, unless a call failed or there was nothing to format. -/
lemma Spared.failed {w' : World} (hs : Spared A targets path passphrase w) (hw : w.CacheAgrees)
    (hf : Formatting targets w w')
    (hwhy : passphrase ≠ "" ∨ Faulty A ∨ w.fs.node path = none) : w'.CacheAgrees := by
  refine hf.cacheAgrees hw fun p vk j hlive hj hr => ?_
  obtain ⟨hempty, hp, hfault⟩ := hs p vk j hlive hj hr
  rcases hwhy with hne | hfaulty | hnone
  · exact hne hempty
  · exact hfault hfaulty
  · rw [hp, w.fs.node_cacheKey, hnone] at hj
    cases hj

lemma Spared.later (hs : Spared A targets path passphrase w) (hv : w.Later v) :
    Spared A targets path passphrase v := by
  obtain ⟨d, rfl⟩ := hv
  exact fun p vk j hlive => hs p vk j (live_of_later (Nat.le_add_right _ _) hlive)

/-- The entry of a keyless format joins the others. -/
lemma KeylessOutcome.cacheAgrees {x : Except String Unit} {w' : World} (hw : w.CacheAgrees)
    (hs : Spared A targets path passphrase w) (hv : Formatting targets w v)
    (hout : KeylessOutcome A targets path w v x w') : w'.CacheAgrees := by
  cases x with
  | error e =>
      obtain ⟨hf, hwhy⟩ := hout
      refine hs.failed hw hf (Or.inr (hwhy.imp_right fun hnone => ?_))
      cases hn : w.fs.node path with
      | none => rfl
      | some i => simp [hv.node path i hn] at hnone
  | ok _ =>
      obtain ⟨u, vk, hf, hvk, rfl⟩ := hout
      intro p vk' hlive
      by_cases hp : p = u.fs.cacheKey path
      · subst hp
        have hkey : vk = vk' := by
          simpa [World.cacheInsert, live, volumeKeyCacheTtl] using hlive
        obtain ⟨h, hh, hhvk⟩ := Option.map_eq_some_iff.mp hvk
        refine ⟨h, ?_, hhvk.trans hkey⟩
        show (u.fs.node _).bind u.luks = _
        rw [u.fs.node_cacheKey]
        exact hh
      · have hlive' : live u.now (u.cache p) = some vk' := by
          simpa [World.cacheInsert, Function.update_of_ne hp] using hlive
        rw [hf.cache] at hlive'
        have hlive' := live_of_later hf.now_le hlive'
        obtain ⟨h, hh, hhvk⟩ := hw p vk' hlive'
        obtain ⟨j, hj, hluks⟩ := Option.bind_eq_some_iff.mp hh
        refine ⟨h, ?_, hhvk⟩
        have hnot : ¬ w.Reached targets j := by
          intro hr
          obtain ⟨-, hpath, -⟩ := hs p vk' j hlive' hj hr
          have hnode : (w.fs.node path).isSome := by
            rw [← w.fs.node_cacheKey, ← hpath, hj]
            rfl
          refine hp (hpath.trans ?_)
          rw [FileSystem.cacheKey, FileSystem.cacheKey, hf.canonicalize path hnode]
        show (u.fs.node p).bind u.luks = _
        rw [hf.node p j hj, Option.bind_some, hf.luks j (w.fs.node_lt p j hj) hnot, hluks]

lemma formatLuks2_cacheAgrees (hw : w.CacheAgrees) (hpath : path ∈ targets)
    (hs : Spared A targets path passphrase w) (hv : Formatting targets w v)
    (hne : passphrase ≠ "") (area : KeyslotsArea) :
    (formatLuks2 path passphrase area).wp (exec who) A (fun _ w' => w'.CacheAgrees) v :=
  Prog.wp_mono (fun _ _ hf => hs.failed hw hf (Or.inl hne))
    (keeps_formatting (formatsOn_of_at hpath (formatLuks2_formats passphrase area)) v hv)

lemma formatLuks2Keyless_cacheAgrees (hw : w.CacheAgrees) (hpath : path ∈ targets)
    (hs : Spared A targets path passphrase w) (hv : Formatting targets w v) (area : KeyslotsArea) :
    (formatLuks2Keyless path area).wp (exec who) A (fun _ w' => w'.CacheAgrees) v :=
  Prog.wp_mono (fun _ _ hout => hout.cacheAgrees hw hs hv)
    (formatLuks2Keyless_outcome hpath area hv)

lemma formatContainer_cacheAgrees (hw : w.CacheAgrees) (hpath : path ∈ targets)
    (hs : Spared A targets path passphrase w) (hv : Formatting targets w v) :
    (formatContainer path passphrase).wp (exec who) A (fun _ w' => w'.CacheAgrees) v := by
  rw [formatContainer]
  split_ifs with hempty
  · refine Prog.wp_bind (Prog.wp_mono (fun x v' hv' => ?_)
      (formatLuks2Keyless_cacheAgrees hw hpath hs hv _))
    cases x <;> exact hv'
  · refine Prog.wp_bind (Prog.wp_mono (fun x v' hv' => ?_)
      (formatLuks2_cacheAgrees hw hpath hs hv hempty _))
    cases x <;> exact hv'

lemma formatLuks2Removable_cacheAgrees (hw : w.CacheAgrees) (hpath : path ∈ targets)
    (hs : Spared A targets path passphrase w) (hv : Formatting targets w v) :
    (formatLuks2Removable path passphrase).wp (exec who) A (fun _ w' => w'.CacheAgrees) v := by
  rw [formatLuks2Removable]
  split_ifs with hempty
  · exact formatLuks2Keyless_cacheAgrees hw hpath hs hv _
  · refine Prog.wp_bind (Prog.wp_mono (fun x v' hv' => ?_)
      (formatLuks2_cacheAgrees hw hpath hs hv hempty _))
    cases x <;> exact hv'

/-- A write fails by the environment, or because there is nothing to write to. -/
lemma write_error {o : Oracle} {e : String} (herr : (World.write v o path).1 = Except.error e) :
    o.fault.isSome ∨ v.fs.node path = none := by
  rw [World.write] at herr
  cases hi : v.fs.node path with
  | none => exact Or.inr rfl
  | some i =>
      cases hfault : o.fault with
      | some e => exact Or.inl rfl
      | none => simp [hi, hfault, Oracle.unlessFault] at herr

/-- A write that went through had an object to write to. -/
lemma write_ok {o : Oracle} {u : Unit} (hok : (World.write v o path).1 = Except.ok u) :
    ∃ i, v.fs.node path = some i := by
  rw [World.write] at hok
  cases hi : v.fs.node path with
  | none => simp [hi] at hok
  | some i => exact ⟨i, rfl⟩

lemma formatDevice_cacheAgrees {device : String} {partition : Bool} (hw : w.CacheAgrees)
    (hs : Spared A [device, formatTarget device partition] (formatTarget device partition)
      passphrase w) :
    (formatDevice device passphrase partition).wp (exec who) A (fun _ w' => w'.CacheAgrees) w := by
  have hdevice : device ∈ [device, formatTarget device partition] := by simp
  have htarget : formatTarget device partition ∈ [device, formatTarget device partition] := by simp
  have hfinish : ∀ {v : World} {word : String → String} {out : String},
      Formatting [device, formatTarget device partition] w v →
      (((formatLuks2Removable (formatTarget device partition) passphrase).mapErr word).bind
        fun _ => (Prog.ret out : Op String)).wp (exec who) A (fun _ w' => w'.CacheAgrees) v := by
    intro v word out hv
    refine Prog.wp_bind (Prog.wp_mapErr (Prog.wp_mono (fun x v' hv' => ?_)
      (formatLuks2Removable_cacheAgrees hw htarget hs hv)))
    cases x <;> exact hv'
  refine wp_ask_orFail (c := Cmd.wipefs device) (r := id) (fun o _ _ hok => ?_) (fun o e ho he => ?_)
  · have hf := @Formatting.step _ w w who (Cmd.wipefs device) hdevice o (Formatting.refl w)
    cases partition with
    | true => exact hfinish hf
    | false =>
        refine wp_ask_orFail (c := Cmd.gptZapAndPartition device) (r := id) (fun o' _ _ _ => ?_)
          (fun o' e' ho' he' => ?_)
        · have hf' := @Formatting.step _ w _ who (Cmd.gptZapAndPartition device) hdevice o' hf
          refine Prog.wp_bind (Prog.wp_mono (fun x v hx => ?_) (Prog.wp_and
            (keeps_formatting (waitForPartitionNode_formats hdevice) _ hf')
            (waitForPartitionNode_answer (firstPartitionPath device) _)))
          obtain ⟨hv, b, rfl, hb⟩ := hx
          cases b with
          | true => exact hfinish hv
          | false =>
              refine hs.failed hw hv (Or.inr (Or.inr ?_))
              cases hn : w.fs.node (firstPartitionPath device) with
              | none => exact hn
              | some i => simp [FileSystem.pathExists, hv.node _ i hn] at hb
        · -- the disk is there, since it could be wiped: a call failed
          refine hs.failed hw (hf.step (c := Cmd.gptZapAndPartition device) hdevice o') ?_
          rcases write_error he' with hfault | hnone
          · exact Or.inr (Or.inl ⟨o', ho', hfault⟩)
          · obtain ⟨i, hi⟩ := write_ok hok
            have hi' := hf.node device i hi
            exact absurd (hi'.symm.trans hnone) (by simp)
  · rcases write_error he with hfault | hnone
    · exact hs.failed hw ((Formatting.refl w).step (c := Cmd.wipefs device) hdevice o)
        (Or.inr (Or.inl ⟨o, ho, hfault⟩))
    · have hnothing : (exec who (Cmd.wipefs device) o w).2 = { w with now := w.now + o.elapsed } := by
        have hnode : w.fs.node device = none := hnone
        simp [exec, answer, World.write, hnode]
      rw [hnothing]
      exact hw.later ⟨o.elapsed, rfl⟩

/-- Creating a container at a path where there is nothing: nothing is overwritten. -/
lemma createContainer_cacheAgrees (hw : w.CacheAgrees) (hnone : w.fs.node path = none) (sizeMb : ℤ)
    (owner : Option (ℕ × ℕ)) {v : World} (hv : w.Later v) :
    (createContainer path sizeMb passphrase owner).wp (exec who) A (fun _ w' => w'.CacheAgrees)
      v := by
  have hpath : path ∈ [path] := List.mem_singleton_self path
  have hspared : Spared A [path] path passphrase w := by
    rintro p vk j - - ⟨t, ht, i, hi, -⟩
    obtain rfl := List.mem_singleton.mp ht
    simp [hnone] at hi
  have hf : Formatting [path] w v := by
    obtain ⟨d, rfl⟩ := hv
    exact (Formatting.refl w).later d
  have hfile : (createImageFile path sizeMb).AllCalls (Cmd.FormatsOn [path] False) :=
    createImageFile_allCalls hpath (fun _ => hpath) fun _ _ => hpath
  refine Prog.wp_bind (Prog.wp_mono (fun x v₁ hv₁ => ?_) (keeps_formatting hfile v hf))
  cases x with
  | error e => exact hspared.failed hw hv₁ (Or.inr (Or.inr hnone))
  | ok _ =>
      refine Prog.wp_bind (Prog.wp_mono (fun y v₂ hv₂ => ?_)
        (formatContainer_cacheAgrees hw hpath hspared hv₁))
      cases y with
      | error e => exact hv₂
      | ok keyslot =>
          refine Prog.Keeps.bind (keeps_cacheAgrees ?_) (fun _ => Prog.Keeps.ret _) v₂ hv₂
          cases owner with
          | none => trivial
          | some ids => exact AllCalls.bind (allCalls_ask.mpr trivial) fun _ => allCalls_orFail _ _

end Formats

/-! ## Requests

Every request that is no format, and the two that are.
-/

/-- What a request formats, in the state it starts from. -/
def Request.formats (w : World) : Request → Option String
  | Request.formatPartition device _ =>
      if w.fs.readSysfs (removablePath device) = some "1" then
        some (formatTarget device (w.fs.pathExists (partitionPath device)))
      else none
  | Request.createImageFd path _ => some path
  | _ => none

/-- What it writes to, of what is there already. -/
def Request.writes (w : World) (r : Request) : List String :=
  match r, r.formats w with
  | Request.formatPartition device _, some target => [device, target]
  | _, some target => [target]
  | _, none => []

/-- Is the new header left without a keyslot, and its key cached? -/
def Request.keyless : Request → Bool
  | Request.formatPartition _ passphrase => passphrase == ""
  | Request.createImageFd _ passphrase => passphrase == ""
  | _ => false

/-- **The condition on a request**: a format overwrites nothing that has an unexpired entry, except
that a keyless one, with no call failing, may overwrite what it formats. -/
def FormatsUncached (w : World) (r : Request) (os : ℕ → Oracle) : Prop :=
  ∀ p vk j, live w.now (w.cache p) = some vk → w.fs.node p = some j → w.Reached (r.writes w) j →
    r.keyless = true ∧ (∃ target, r.formats w = some target ∧ p = w.fs.cacheKey target)
      ∧ ∀ n, (os n).fault = none

lemma activateVolume_keeps (name unlockMethod passphrase unlockPin : String) :
    (activateVolume device name unlockMethod passphrase unlockPin).Keeps (exec who) A
      World.CacheAgrees := by
  rw [activateVolume]
  split_ifs
  · refine Prog.Keeps.bind (keeps_cacheAgrees (allCalls_ask.mpr trivial)) fun active => ?_
    cases active with
    | true => exact Prog.Keeps.ret _
    | false =>
        refine Prog.Keeps.bind (getVolumeKey_keeps _ _ _) fun vk => ?_
        have hopen := leavesKeys_of_looks (openLuks2_looks device)
        refine keeps_cacheAgrees (AllCalls.bind hopen fun _ => ?_)
        exact AllCalls.bind (allCalls_ask.mpr trivial) fun _ => allCalls_orFail _ _
  · exact Prog.Keeps.fail _

/-- `FormatPartition` keeps it right where what it formats was spared. -/
lemma opFormatPartition_cacheAgrees {device passphrase : String} {w : World} (hw : w.CacheAgrees)
    (hs : w.fs.readSysfs (removablePath device) = some "1" →
      Spared A [device, formatTarget device (w.fs.pathExists (partitionPath device))]
        (formatTarget device (w.fs.pathExists (partitionPath device))) passphrase w) :
    (opFormatPartition device passphrase).wp (exec who) A (fun _ w' => w'.CacheAgrees) w := by
  refine Prog.wp_bind (Prog.wp_attempt (Prog.wp_mono (fun x v hv => ?_)
    (?_ : (formatRemovablePartition device passphrase).wp _ _ (fun _ w' => w'.CacheAgrees) w)))
  · cases x <;> exact hv
  intro o _
  have hlater : World.CacheAgrees { w with now := w.now + o.elapsed } := hw.later ⟨o.elapsed, rfl⟩
  show Prog.wp _ _ _ (if decide (w.fs.readSysfs (removablePath device) = some "1") = true then _
    else _ : Op String) _
  split_ifs with hremovable
  · intro o' _
    have hlater' : w.Later { w with now := w.now + o.elapsed + o'.elapsed } := by
      exact ⟨o.elapsed + o'.elapsed, by simp [Nat.add_assoc]⟩
    exact formatDevice_cacheAgrees (hw.later hlater') ((hs (by simpa using hremovable)).later hlater')
  · exact hlater

/-- **One request.** -/
lemma request_cacheAgrees {w : World} {r : Request} {os : ℕ → Oracle} (hw : w.CacheAgrees)
    (hcond : FormatsUncached w r os) : (r.body.run (exec none) os w).2.CacheAgrees := by
  have hfault : (∀ n, (os n).fault = none) → ¬ Faulty fun o => ∃ n, os n = o := by
    rintro hnone ⟨o, ⟨n, rfl⟩, hsome⟩
    simp [hnone n] at hsome
  suffices hwp : r.body.wp (exec none) (fun o => ∃ n, os n = o) (fun _ w' => w'.CacheAgrees) w from
    Prog.wp_sound hwp os fun n => ⟨n, rfl⟩
  cases r with
  | slot r => exact (Prog.Keeps.bind (slotRequest_keeps r) fun _ => Prog.Keeps.ret _) w hw
  | verifyPassphrase device passphrase =>
      refine Prog.wp_bind (Prog.wp_mono (fun x v hv => ?_) (verifyPassphrase_key passphrase w))
      cases x <;> exact hw.cachedFrom hv
  | unlockWithToken device tokenType pin =>
      refine Prog.wp_bind (Prog.wp_mono (fun x v hv => ?_) (verifyToken_key tokenType pin w))
      cases x <;> exact hw.cachedFrom hv
  | openVolume device name passphrase unlockMethod unlockPin =>
      refine (Prog.Keeps.bind (Prog.Keeps.bind (activateVolume_keeps _ _ _ _).attempt fun x => ?_)
        fun _ => Prog.Keeps.ret _) w hw
      cases x <;> exact Prog.Keeps.ret _
  | closeVolume name =>
      have hcloses : (deactivateVolume name).AllCalls Cmd.LeavesKeys :=
        (deactivateVolume_closes name).mono fun c hc => by cases c <;> trivial
      refine (Prog.Keeps.bind (Prog.Keeps.bind (keeps_cacheAgrees hcloses).attempt fun x => ?_)
        fun _ => Prog.Keeps.ret _) w hw
      cases x <;> exact Prog.Keeps.ret _
  | closeVolumeFd found =>
      have hcloses : (deactivateVolumes found).AllCalls Cmd.LeavesKeys :=
        (deactivateVolumes_closes found).mono fun c hc => by cases c <;> trivial
      exact keeps_cacheAgrees hcloses w hw
  | createEncryptedImage realPath sizeMb passphrase owner =>
      refine Prog.wp_bind (Prog.wp_mono (fun x v hv => ?_) (?_ : (opCreateEncryptedImage realPath
        sizeMb passphrase owner).wp _ _ (fun _ w' => w'.CacheAgrees) w))
      · cases x <;> exact hv
      intro o _
      have hlater : w.Later { w with now := w.now + o.elapsed } := ⟨o.elapsed, rfl⟩
      show Prog.wp _ _ _ (if w.fs.pathExists realPath = true then _ else _ : Op _) _
      split_ifs with hpresent
      · intro o' _
        have hlater' := hw.later (hlater.trans ⟨o'.elapsed, rfl⟩)
        show Prog.wp _ _ _ (if (exec none (Cmd.isFile realPath) o' _).1 = true then _ else _ : Op _) _
        split_ifs <;> exact hlater'
      · have hnone : w.fs.node realPath = none := by
          simpa [FileSystem.pathExists] using hpresent
        refine Prog.wp_bind (Prog.wp_attempt (Prog.wp_mono (fun x v hv => ?_)
          (createContainer_cacheAgrees hw hnone sizeMb owner hlater)))
        cases x <;> exact hv
      · exact hw.later hlater
  | createImageFd path passphrase =>
      have hspared : Spared (fun o => ∃ n, os n = o) [path] path passphrase w := by
        intro p vk j hlive hj hr
        obtain ⟨hkeyless, ⟨target, ht, hp⟩, hnone⟩ := hcond p vk j hlive hj hr
        obtain rfl := Option.some.inj ht
        exact ⟨by simpa [Request.keyless] using hkeyless, hp, hfault hnone⟩
      refine Prog.wp_bind (Prog.wp_bind (Prog.wp_attempt (Prog.wp_mono (fun x v hv => ?_)
        (formatContainer_cacheAgrees hw (List.mem_singleton_self path) hspared
          (Formatting.refl w)))))
      cases x <;> exact hv
  | formatPartition device passphrase =>
      refine Prog.wp_bind (Prog.wp_mono (fun x v hv => ?_)
        (opFormatPartition_cacheAgrees hw fun hremovable => ?_))
      · cases x <;> exact hv
      intro p vk j hlive hj hr
      have hformats : (Request.formatPartition device passphrase).formats w
          = some (formatTarget device (w.fs.pathExists (partitionPath device))) := by
        simp [Request.formats, hremovable]
      have hwrites : w.Reached ((Request.formatPartition device passphrase).writes w) j := by
        simp only [Request.writes, hformats]
        exact hr
      obtain ⟨hkeyless, ⟨target, ht, hp⟩, hnone⟩ := hcond p vk j hlive hj hwrites
      obtain rfl := Option.some.inj (hformats.symm.trans ht)
      exact ⟨by simpa [Request.keyless] using hkeyless, hp, hfault hnone⟩

/-! ## Every run

Requests one after another, where each format spares what is cached.
-/

/-- **The cache agrees with the disk.**  In every run of the service in which no format overwrites
anything with an unexpired entry, except what a keyless format puts back, every unexpired entry is
the volume key of the header its path leads to; in particular `get_volume_key` never takes the key
of an earlier format.  The states meant are those between requests: in the middle of a keyless format
the header is already the new one and the entry still the old one, and only its last step puts the new
key in the cache. -/
theorem cached_keys_current {w : World} (hw : ∀ p, w.cache p = none) (xs : List Served)
    (hxs : Serving FormatsUncached xs w) :
    (serve xs w).CacheAgrees ∧ ∀ device vk, (serve xs w).cachedKey device = some vk →
      ∃ h, (serve xs w).header device = some h ∧ h.volumeKey = vk := by
  have hstart : w.CacheAgrees := by
    intro p vk hlive
    simp [hw p, live] at hlive
  have hend : (serve xs w).CacheAgrees :=
    Prog.runAll_invariant (fun v r os hv hcond => request_cacheAgrees hv hcond) hstart hxs
  refine ⟨hend, fun device vk hcached => ?_⟩
  obtain ⟨h, hh, hvk⟩ := hend _ vk hcached
  refine ⟨h, ?_, hvk⟩
  rw [World.header, ← (serve xs w).fs.node_cacheKey]
  exact hh

/-! ## Two formats

A volume that is formatted keyless and then with a passphrase, while the first key is still cached.
-/

/-- A removable disk with one partition. -/
def removablePartition : World :=
  World.start (FileSystem.ofList [("/dev/sdb1", FileKind.block "sdb" false, 0),
      ("/sys/class/block/sdb1/partition", FileKind.regular, 0)]
    [("/sys/block/sdb/removable", "1\n")]) fun _ => none

/-- The partition is formatted without a passphrase, and again with one. -/
def formatTwice : List Served :=
  [(Request.formatPartition "/dev/sdb1" "", fun _ => Oracle.quiet),
    (Request.formatPartition "/dev/sdb1" "pw", fun _ => { bytes := fun _ => 1 })]

/-- **The key of the first format stays cached for the header of the second.** -/
theorem passphrase_format_leaves_stale_key :
    (serve formatTwice removablePartition).cachedKey "/dev/sdb1"
        = some ⟨List.replicate 64 0⟩
      ∧ ((serve formatTwice removablePartition).header "/dev/sdb1").map Header.volumeKey
        = some ⟨List.replicate 64 1⟩ := by
  refine ⟨?_, ?_⟩ <;> decide +kernel

/-- The partition is formatted without a passphrase, a passphrase is enrolled, and verified. -/
def formatAndEnroll : List Served :=
  [(Request.formatPartition "/dev/sdb1" "", fun _ => Oracle.quiet),
    (Request.slot (SlotRequest.enrollPassphrase "/dev/sdb1" "" "pw" "passphrase" ""),
      fun _ => Oracle.quiet),
    (Request.verifyPassphrase "/dev/sdb1" "pw", fun _ => Oracle.quiet)]

/-- The key is cached, and it is the right one. -/
theorem enrolled_key_current :
    (serve formatAndEnroll removablePartition).cachedKey "/dev/sdb1" = some ⟨List.replicate 64 0⟩
      ∧ (serve formatAndEnroll removablePartition).CacheAgrees := by
  have hcond : Serving FormatsUncached formatAndEnroll removablePartition := by
    refine ⟨?_, ?_, ?_, trivial⟩
    · intro p vk j hlive
      cases hlive
    · rintro p vk j - - ⟨t, ht, -⟩
      cases ht
    · rintro p vk j - - ⟨t, ht, -⟩
      cases ht
  exact ⟨by decide +kernel, (cached_keys_current (fun _ => rfl) formatAndEnroll hcond).1⟩

end LuksEnroll
