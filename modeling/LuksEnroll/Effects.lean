import LuksEnroll.Operations

/-!
# What a session does to the disk

Most of an operation only reads: it opens sessions, looks at metadata, talks to the hardware and
to the cache.  `Cmd.ReadsOn` is that class of commands, and everything up to the first write of
every operation falls into it.

Each of the three writes — a keyslot added, a token set, a keyslot destroyed — then gets one
lemma: either it fails and the disk is as before, or one header was replaced by what the
libcryptsetup call makes of it.

The classes are nested as the source nests its calls: a session on a device (`Cmd.SessionOn`) is a look
(`Cmd.LooksOn`), and a look is a read (`Cmd.ReadsOn`), which may ask the cache and the hardware besides.
One lemma for each function says in which class its commands are; from there everything before the first
write is dealt with at once, by `exec_readsOn`.
-/

namespace LuksEnroll

open Library

namespace World

/-- Headers, file system and mappings are the same; clock and cache may differ. -/
structure SameDisk (w w' : World) : Prop where
  luks : w'.luks = w.luks
  fs : w'.fs = w.fs
  mappings : w'.mappings = w.mappings

lemma SameDisk.refl (w : World) : SameDisk w w := ⟨rfl, rfl, rfl⟩

/-- What left the disk as it was goes on doing so. -/
lemma SameDisk.trans {u v w : World} (h : SameDisk u v) (h' : SameDisk v w) : SameDisk u w :=
  ⟨h'.luks.trans h.luks, h'.fs.trans h.fs, h'.mappings.trans h.mappings⟩

lemma SameDisk.header {w w' : World} (h : SameDisk w w') (device : String) :
    w'.header device = w.header device := by
  rw [World.header, World.header, h.fs, h.luks]

lemma isSome_node_of_header {w : World} {device : String} {h : Header}
    (hh : w.header device = some h) : (w.fs.node device).isSome := by
  obtain ⟨i, hi, -⟩ := Option.bind_eq_some_iff.mp hh
  rw [hi, Option.isSome_some]

/-- The header that `device` leads to was replaced, `h` by `h'`, and nothing else on disk. -/
structure Wrote (w : World) (device : String) (h h' : Header) (w' : World) : Prop where
  stored : w.header device = some h
  luks : ∀ i, w.fs.node device = some i → w'.luks = Function.update w.luks i (some h')
  fs : w'.fs = w.fs
  mappings : w'.mappings = w.mappings

/-- The header that was written is the one that is read next. -/
lemma Wrote.header {w w' : World} {device : String} {h h' : Header}
    (hw : w.Wrote device h h' w') : w'.header device = some h' := by
  have hs := hw.stored
  rw [World.header, Option.bind_eq_some_iff] at hs
  obtain ⟨i, hi, -⟩ := hs
  simp [World.header, hw.fs, hi, hw.luks i hi]

/-- A stored header after a write: kept, if the write was to another object, else replaced. -/
lemma Wrote.luks_cases {w w' : World} {device : String} {h₀ h₁ h : Header} {i : ℕ}
    (hw : w.Wrote device h₀ h₁ w') (hi : w.luks i = some h) :
    (w.fs.node device ≠ some i ∧ w'.luks i = some h)
      ∨ (h₀ = h ∧ w.fs.node device = some i ∧ w'.luks i = some h₁) := by
  have hs := hw.stored
  rw [World.header, Option.bind_eq_some_iff] at hs
  obtain ⟨j, hj, hluks⟩ := hs
  by_cases hij : i = j
  · subst hij
    refine Or.inr ⟨Option.some.inj (hluks.symm.trans hi), hj, ?_⟩
    rw [hw.luks i hj, Function.update_self]
  · refine Or.inl ⟨?_, ?_⟩
    · intro hn
      exact hij (Option.some.inj (hn.symm.trans hj))
    · rw [hw.luks j hj, Function.update_of_ne hij, hi]

/-- What came before a write and changed nothing can be left out. -/
lemma Wrote.of_sameDisk {u v w : World} {device : String} {h h' : Header} (huv : SameDisk u v)
    (hw : v.Wrote device h h' w) : u.Wrote device h h' w where
  stored := huv.header device ▸ hw.stored
  luks := fun i hi => by rw [hw.luks i (by rw [huv.fs]; exact hi), huv.luks]
  fs := hw.fs.trans huv.fs
  mappings := hw.mappings.trans huv.mappings

lemma Wrote.then_sameDisk {u v w : World} {device : String} {h h' : Header}
    (hw : u.Wrote device h h' v) (hvw : SameDisk v w) : u.Wrote device h h' w where
  stored := hw.stored
  luks := fun i hi => by rw [hvw.luks, hw.luks i hi]
  fs := hvw.fs.trans hw.fs
  mappings := hvw.mappings.trans hw.mappings

/-! Header writes, formats and raw writes change what is stored, and nothing else. -/

/-- An update changes headers and nothing else. -/
lemma update_stored {α : Type} (w : World) (device : String) (o : Oracle)
    (f : Header → Except String (α × Header)) :
    ∃ luks, (w.update device o f).2 = { w with luks := luks } := by
  rw [update]
  split
  · exact ⟨_, rfl⟩
  split
  · exact ⟨_, rfl⟩
  split
  · exact ⟨_, rfl⟩
  split <;> exact ⟨_, rfl⟩

lemma format_stored (w : World) (o : Oracle) (device : String) (vk : Option VolumeKey) :
    ∃ luks, (w.format o device vk).2 = { w with luks := luks } := by
  rw [format]
  split
  · exact ⟨_, rfl⟩
  split <;> exact ⟨_, rfl⟩

lemma write_stored (w : World) (o : Oracle) (device : String) :
    ∃ luks, (w.write o device).2 = { w with luks := luks } := by
  rw [write]
  split <;> exact ⟨_, rfl⟩

/-- What `File::create` can do: nothing, make a file where there was none, or empty one. -/
lemma createFile_cases (w : World) (o : Oracle) (path : String) :
    (w.createFile o path).2 = w
      ∨ w.fs.node path = none
        ∧ (w.createFile o path).2 = { w with fs := w.fs.create path FileKind.regular o.aliases }
      ∨ ∃ i, w.fs.node path = some i
        ∧ (w.createFile o path).2 = { w with luks := Function.update w.luks i none } := by
  rw [createFile]
  split
  · exact Or.inl rfl
  split
  · rename_i hnode
    exact Or.inr (Or.inl ⟨hnode, rfl⟩)
  · rename_i i hnode
    split
    · exact Or.inr (Or.inr ⟨i, hnode, rfl⟩)
    · exact Or.inl rfl
    · exact Or.inl rfl

/-- **What a header write can do**: replace the header by what the call makes of it, or fail, and
then for a reason, leaving the world alone. -/
lemma update_cases {α : Type} (w : World) (device : String) (o : Oracle)
    (f : Header → Except String (α × Header)) :
    (∃ h a h', o.fault = none ∧ w.header device = some h ∧ f h = Except.ok (a, h') ∧
        (w.update device o f).1 = Except.ok a ∧ w.Wrote device h h' (w.update device o f).2)
      ∨ ∃ e, w.update device o f = (Except.error e, w) ∧
        (o.fault.isSome ∨ w.header device = none ∨
          ∃ h, w.header device = some h ∧ f h = Except.error e) := by
  cases hfault : o.fault with
  | some e => exact Or.inr ⟨e, by simp [update, hfault], by simp⟩
  | none =>
      cases hi : w.fs.node device with
      | none =>
          exact Or.inr ⟨o.text, by simp [update, hfault, hi], by simp [World.header, hi]⟩
      | some i =>
          have hheader : w.header device = w.luks i := by simp [World.header, hi]
          cases hh : w.luks i with
          | none =>
              exact Or.inr ⟨o.text, by simp [update, hfault, hi, hh], by simp [hheader, hh]⟩
          | some h =>
              cases hf : f h with
              | error e =>
                  refine Or.inr ⟨e, by simp [update, hfault, hi, hh, hf], Or.inr (Or.inr ?_)⟩
                  exact ⟨h, by rw [hheader, hh], hf⟩
              | ok r =>
                  refine Or.inl ⟨h, r.1, r.2, rfl, by rw [hheader, hh], hf, ?_, ?_⟩
                  · simp [update, hfault, hi, hh, hf]
                  · refine ⟨by rw [hheader, hh], fun j hj => ?_, ?_, ?_⟩
                    · obtain rfl : i = j := Option.some.inj (hi.symm.trans hj)
                      simp [update, hfault, hi, hh, hf]
                    · simp [update, hfault, hi, hh, hf]
                    · simp [update, hfault, hi, hh, hf]

end World

/-! ## Reading -/

/-- Commands that leave the disk alone.  Those that name a device name `device`. -/
def Cmd.ReadsOn (device : String) : Cmd → Prop
  | Cmd.cacheGet d => d = device
  | Cmd.cacheInsert d _ => d = device
  | Cmd.init d => d = device
  | Cmd.load d => d = device
  | Cmd.addByKey _ _ _ => False
  | Cmd.tokenJsonSet _ _ => False
  | Cmd.keyslotDestroy _ _ => False
  | Cmd.format _ _ => False
  | Cmd.activateByVolumeKey _ _ _ => False
  | Cmd.deactivate _ => False
  | Cmd.createFile _ => False
  | Cmd.writeAll _ _ _ => False
  | Cmd.chown _ _ _ => False
  | Cmd.wipefs _ => False
  | Cmd.gptZapAndPartition _ => False
  | Cmd.partprobe _ => False
  | _ => True

/-- Commands that do not even touch the cache. -/
def Cmd.LooksOn (device : String) : Cmd → Prop
  | Cmd.cacheGet _ => False
  | Cmd.cacheInsert _ _ => False
  | c => c.ReadsOn device

lemma Cmd.LooksOn.reads {device : String} {c : Cmd} (hc : c.LooksOn device) : c.ReadsOn device := by
  cases c <;> first | exact hc | exact hc.elim

lemma cacheGet_sameDisk (w : World) (device : String) : w.SameDisk (w.cacheGet device).2 := by
  rw [World.cacheGet]
  split <;> exact ⟨rfl, rfl, rfl⟩

/-- **Reading leaves the disk alone**, whatever it is answered. -/
lemma exec_readsOn {device : String} {who : Option ℕ} {c : Cmd} (hc : c.ReadsOn device)
    (o : Oracle) (w : World) : w.SameDisk (exec who c o w).2 := by
  cases c with
  | cacheGet d =>
      have h := cacheGet_sameDisk { w with now := w.now + o.elapsed } d
      exact ⟨h.luks, h.fs, h.mappings⟩
  | _ => first | exact ⟨rfl, rfl, rfl⟩ | exact absurd hc (by simp [Cmd.ReadsOn])

variable {who : Option ℕ} {A : Oracle → Prop} {device : String} {α : Type}

/-- A program that only reads ends on the same disk. -/
lemma wp_readsOn {p : Op α} (hp : p.AllCalls (Cmd.ReadsOn device)) (w : World) :
    p.wp (exec who) A (fun _ w' => w.SameDisk w') w :=
  Prog.wp_of_allCalls (T := World.SameDisk) World.SameDisk.refl
    (fun _ _ _ => World.SameDisk.trans) (fun _ o s hc _ => exec_readsOn hc o s) hp w

section Reads

variable {P : Cmd → Prop}

@[simp] lemma allCalls_ask {c : Cmd} : (ask c).AllCalls P ↔ P c := Prog.allCalls_perform P c

@[simp] lemma allCalls_orFail (r : Except String α) (word : String → String) :
    (orFail r word).AllCalls P := Prog.allCalls_ofExcept P _

end Reads

open Prog (AllCalls)

/-- The commands of a session that only looks at the metadata. -/
def Cmd.SessionOn (device : String) : Cmd → Prop
  | Cmd.init d => d = device
  | Cmd.load d => d = device
  | Cmd.dumpJson _ => True
  | _ => False

lemma Cmd.SessionOn.looks {c : Cmd} (hc : c.SessionOn device) : c.LooksOn device := by
  cases c <;> first | exact hc | trivial

lemma reads_of_looks {p : Op α} (hp : p.AllCalls (Cmd.LooksOn device)) :
    p.AllCalls (Cmd.ReadsOn device) := hp.mono fun _ => Cmd.LooksOn.reads

/-- Opening a session asks for the device and its header. -/
lemma openLuks2_session (device : String) : (openLuks2 device).AllCalls (Cmd.SessionOn device) :=
  AllCalls.bind (allCalls_ask.mpr rfl) fun _ =>
    AllCalls.bind (allCalls_orFail _ _) fun _ =>
      AllCalls.bind (allCalls_ask.mpr rfl) fun _ => allCalls_orFail _ _

lemma metadataJson_session (device : String) :
    (metadataJson device).AllCalls (Cmd.SessionOn device) := by
  refine AllCalls.bind (openLuks2_session device).attempt fun x => ?_
  cases x with
  | error e => trivial
  | ok loaded => exact AllCalls.bind (allCalls_ask.mpr trivial) fun _ => trivial

lemma openLuks2_looks (device : String) : (openLuks2 device).AllCalls (Cmd.LooksOn device) :=
  (openLuks2_session device).mono fun _ => Cmd.SessionOn.looks

lemma metadataJson_looks (device : String) :
    (metadataJson device).AllCalls (Cmd.LooksOn device) :=
  (metadataJson_session device).mono fun _ => Cmd.SessionOn.looks

lemma listKeyslots_looks (device : String) :
    (listKeyslots device).AllCalls (Cmd.LooksOn device) :=
  AllCalls.bind (metadataJson_looks device) fun _ => trivial

lemma findTokenForKeyslot_session (device : String) (slot : ℤ) :
    (findTokenForKeyslot device slot).AllCalls (Cmd.SessionOn device) :=
  AllCalls.bind (metadataJson_session device) fun _ => trivial

lemma tokenRefs_looks (read : Json → Except String (List α)) (device : String) :
    (tokenRefs read device).AllCalls (Cmd.LooksOn device) := by
  refine AllCalls.bind (metadataJson_looks device) fun x => ?_
  cases x with
  | none => trivial
  | some metadata => exact Prog.allCalls_ofExcept _ _

lemma derivePassphraseFromToken_looks (device tokenType pin : String) :
    (derivePassphraseFromToken device tokenType pin).AllCalls (Cmd.LooksOn device) := by
  refine AllCalls.bind ?_ fun _ => trivial
  rw [rawTokenSecret]
  split_ifs
  · exact AllCalls.bind (tokenRefs_looks _ device) fun _ =>
      AllCalls.bind (allCalls_ask.mpr trivial) fun _ => allCalls_orFail _ _
  · exact AllCalls.bind (tokenRefs_looks _ device) fun _ =>
      AllCalls.bind (allCalls_ask.mpr trivial) fun _ => allCalls_orFail _ _
  · trivial

lemma tryCandidates_looks (loaded : Header) (pw : Bytes) (slots : List (Option ℕ))
    (lastErr : Option String) :
    (tryCandidates loaded pw slots lastErr).AllCalls (Cmd.LooksOn device) := by
  induction slots generalizing lastErr with
  | nil => trivial
  | cons slot rest ih =>
      refine AllCalls.bind (allCalls_ask.mpr trivial) fun x => ?_
      cases x with
      | ok found => trivial
      | error e => exact ih (some e)

lemma extractTokenVolumeKey_looks (device tokenType : String) (pw : Bytes) :
    (extractTokenVolumeKey device tokenType pw).AllCalls (Cmd.LooksOn device) :=
  AllCalls.bind (openLuks2_looks device) fun _ =>
    AllCalls.bind (allCalls_ask.mpr trivial) fun _ => tryCandidates_looks _ _ _ _

lemma coldVolumeKey_looks (device unlockMethod passphrase unlockPin : String) :
    (coldVolumeKey device unlockMethod passphrase unlockPin).AllCalls (Cmd.LooksOn device) := by
  rw [coldVolumeKey]
  split_ifs
  · exact AllCalls.bind (derivePassphraseFromToken_looks _ _ _) fun _ =>
      AllCalls.bind ((extractTokenVolumeKey_looks _ _ _).mapErr _) fun _ => trivial
  · exact AllCalls.bind (openLuks2_looks device) fun _ =>
      AllCalls.bind (allCalls_ask.mpr trivial) fun _ =>
        AllCalls.bind (allCalls_orFail _ _) fun _ => trivial

lemma getVolumeKey_reads (device unlockMethod passphrase unlockPin : String) :
    (getVolumeKey device unlockMethod passphrase unlockPin).AllCalls (Cmd.ReadsOn device) := by
  rw [getVolumeKey]
  split_ifs
  · refine AllCalls.bind (allCalls_ask.mpr rfl) fun x => ?_
    cases x with
    | some vk => trivial
    | none =>
        exact AllCalls.bind (reads_of_looks (coldVolumeKey_looks _ _ _ _)) fun _ =>
          AllCalls.bind (allCalls_ask.mpr rfl) fun _ => trivial
  · trivial

/-- Commands of a request that opens a volume: it reads until there is a key, and then it activates. -/
def Cmd.OpensOn (device name : String) (c : Cmd) : Prop :=
  c.ReadsOn device ∨ ∃ vk, c = Cmd.activateByVolumeKey device name vk

lemma activateVolume_opens (device name unlockMethod passphrase unlockPin : String) :
    (activateVolume device name unlockMethod passphrase unlockPin).AllCalls
      (Cmd.OpensOn device name) := by
  rw [activateVolume]
  split_ifs
  · refine AllCalls.bind (allCalls_ask.mpr (Or.inl trivial)) fun active => ?_
    cases active with
    | true => trivial
    | false =>
        refine AllCalls.bind ((getVolumeKey_reads _ _ _ _).mono fun _ => Or.inl) fun vk => ?_
        refine AllCalls.bind ((reads_of_looks (openLuks2_looks device)).mono fun _ => Or.inl)
          fun _ => ?_
        exact AllCalls.bind (allCalls_ask.mpr (Or.inr ⟨vk, rfl⟩)) fun _ => allCalls_orFail _ _
  · trivial

lemma opOpenVolume_opens (device name passphrase unlockMethod unlockPin : String) :
    (opOpenVolume device name passphrase unlockMethod unlockPin).AllCalls
      (Cmd.OpensOn device name) := by
  refine AllCalls.bind (activateVolume_opens device name unlockMethod passphrase unlockPin).attempt
    fun x => ?_
  cases x <;> trivial

lemma existingCreds_looks (device : String) :
    (existingCreds device).AllCalls (Cmd.LooksOn device) := by
  refine AllCalls.bind (tokenRefs_looks _ device).attempt fun x => ?_
  cases x <;> trivial

lemma alreadyEnrolled_looks (device fido2Device : String) :
    (alreadyEnrolled device fido2Device).AllCalls (Cmd.LooksOn device) := by
  refine AllCalls.bind (existingCreds_looks device) fun creds => ?_
  split_ifs
  · trivial
  · exact AllCalls.bind (allCalls_ask.mpr trivial) fun _ => trivial

/-- Making a credential writes nothing to the device. -/
lemma prepareFido2_looks (fido2Device pin : String) :
    (prepareFido2 fido2Device pin).AllCalls (Cmd.LooksOn device) :=
  AllCalls.bind (allCalls_ask.mpr trivial) fun _ =>
    AllCalls.bind (allCalls_orFail _ _) fun _ => trivial

lemma prepareTpm2_looks (pcrs pin : String) :
    (prepareTpm2 pcrs pin).AllCalls (Cmd.LooksOn device) :=
  AllCalls.bind (allCalls_ask.mpr trivial) fun _ =>
    AllCalls.bind (allCalls_orFail _ _) fun _ =>
      AllCalls.bind (allCalls_ask.mpr trivial) fun _ =>
        AllCalls.bind (allCalls_orFail _ _) fun _ =>
          AllCalls.bind (Prog.allCalls_ofExcept _ _) fun _ => trivial

lemma prepareRecoveryKey_looks : prepareRecoveryKey.AllCalls (Cmd.LooksOn device) :=
  AllCalls.bind (allCalls_ask.mpr trivial) fun _ => trivial

/-- The keyslots area is set before the header is written. -/
lemma applyKeyslotsArea_looks (path : String) (area : KeyslotsArea) :
    (applyKeyslotsArea area).AllCalls (Cmd.LooksOn path) := by
  rw [applyKeyslotsArea]
  split_ifs
  · exact AllCalls.bind (allCalls_ask.mpr trivial) fun _ => allCalls_orFail _ _
  · trivial

end LuksEnroll
