import LuksEnroll.Service

/-!
# What formatting overwrites

Formatting works on a few targets: it wipes, partitions and formats, and the kernel may make new
nodes appear meanwhile.  `Formatting targets w w'` collects what has become of the world by then:
paths that reached something reach it still, nothing is new except objects of the targets' own
disks, and the only content that may be gone is what a write to one of the targets reaches.

Every command of a format has a lemma that adds its effect to what was collected before, and a program
that issues no others is `Formatting` as a whole (`keeps_formatting`).  The cache is not part of it:
what a format does to the cache is a matter of `KeyCache`.

Images take the same way with one target, their own path; a disk that is partitioned has two, the disk
and its first partition.
-/

namespace LuksEnroll

open Library

/-- A write to one of the targets reaches object `j`. -/
def World.Reached (w : World) (targets : List String) (j : ℕ) : Prop :=
  ∃ t ∈ targets, ∃ i, w.fs.node t = some i ∧ w.fs.reaches i j = true

/-- What formatting on the targets has done to `w` so far. -/
structure Formatting (targets : List String) (w w' : World) : Prop where
  now_le : w.now ≤ w'.now
  cache : w'.cache = w.cache
  next_le : w.fs.next ≤ w'.fs.next
  node : ∀ p i, w.fs.node p = some i → w'.fs.node p = some i
  node_new : ∀ p i, w'.fs.node p = some i → w.fs.node p = some i ∨ w.fs.next ≤ i
  canonicalize : ∀ p, (w.fs.node p).isSome → w'.fs.canonicalize p = w.fs.canonicalize p
  kind : ∀ i < w.fs.next, w'.fs.kind i = w.fs.kind i
  reaches_new : ∀ i j, w.fs.next ≤ i → i < w'.fs.next → j < w.fs.next →
    w'.fs.reaches i j = true → w.Reached targets j
  luks : ∀ j < w.fs.next, ¬ w.Reached targets j → w'.luks j = w.luks j

namespace Formatting

variable {targets : List String} {w v : World}

lemma refl (w : World) : Formatting targets w w where
  now_le := le_rfl
  cache := rfl
  next_le := le_rfl
  node := fun _ _ h => h
  node_new := fun _ _ h => Or.inl h
  canonicalize := fun _ _ => rfl
  kind := fun _ _ => rfl
  reaches_new := fun i j hi hi' => absurd hi' (by omega)
  luks := fun _ _ _ => rfl

/-- Time passes, ownership or mappings change: nothing here. -/
lemma same (hf : Formatting targets w v) {u : World} (hnow : v.now ≤ u.now)
    (hcache : u.cache = v.cache) (hnode : u.fs.node = v.fs.node)
    (hcanon : u.fs.canonicalize = v.fs.canonicalize) (hkind : u.fs.kind = v.fs.kind)
    (hnext : u.fs.next = v.fs.next)
    (hluks : ∀ j < w.fs.next, ¬ w.Reached targets j → u.luks j = v.luks j) :
    Formatting targets w u where
  now_le := hf.now_le.trans hnow
  cache := hcache.trans hf.cache
  next_le := by rw [hnext]; exact hf.next_le
  node := by rw [hnode]; exact hf.node
  node_new := by rw [hnode]; exact hf.node_new
  canonicalize := by rw [hcanon]; exact hf.canonicalize
  kind := by rw [hkind]; exact hf.kind
  reaches_new := by
    simp only [FileSystem.reaches, hkind, hnext]
    exact hf.reaches_new
  luks := fun j hj hr => (hluks j hj hr).trans (hf.luks j hj hr)

/-- A write to a target, wherever it leads by now, reaches only what one to the targets reached. -/
lemma reached (hf : Formatting targets w v) {t : String} (ht : t ∈ targets) {i j : ℕ}
    (hi : v.fs.node t = some i) (hj : j < w.fs.next) (hr : v.fs.reaches i j = true) :
    w.Reached targets j := by
  rcases hf.node_new t i hi with hold | hnew
  · refine ⟨t, ht, i, hold, ?_⟩
    have hkinds := hf.kind i (w.fs.node_lt t i hold)
    simpa only [FileSystem.reaches, hkinds, hf.kind j hj] using hr
  · exact hf.reaches_new i j hnew (v.fs.node_lt t i hi) hj hr

/-- A new object of a kind that reaches nothing but what the targets reached. -/
lemma create (hf : Formatting targets w v) {path : String} {k : FileKind} {aliases : String → Bool}
    (hk : ∀ j < w.fs.next, (v.fs.create path k aliases).reaches v.fs.next j = true →
      w.Reached targets j) :
    Formatting targets w { v with fs := v.fs.create path k aliases } where
  now_le := hf.now_le
  cache := hf.cache
  next_le := by
    have := hf.next_le
    simp only [FileSystem.create]
    omega
  node := fun p i hi => FileSystem.create_node_of_some (hf.node p i hi)
  node_new := fun p i hi => by
    simp only [FileSystem.create] at hi
    split at hi
    · have := hf.next_le
      obtain rfl := Option.some.inj hi
      exact Or.inr this
    · exact hf.node_new p i hi
  canonicalize := fun p hp => by
    obtain ⟨i, hi⟩ := Option.isSome_iff_exists.mp hp
    have hi' := hf.node p i hi
    simp only [FileSystem.create, hi', reduceCtorEq, false_and, if_false]
    exact hf.canonicalize p hp
  kind := fun i hi => by
    rw [FileSystem.create_kind_of_lt (lt_of_lt_of_le hi hf.next_le)]
    exact hf.kind i hi
  reaches_new := fun i j hi hi' hj hr => by
    by_cases hnew : i = v.fs.next
    · exact hk j hj (hnew ▸ hr)
    · have hlt : i < v.fs.next := by
        simp only [FileSystem.create] at hi'
        omega
      refine hf.reaches_new i j hi hlt hj ?_
      simpa only [FileSystem.reaches, FileSystem.create_kind_of_lt hlt,
        FileSystem.create_kind_of_lt (lt_of_lt_of_le hj hf.next_le)] using hr
  luks := hf.luks

lemma later (hf : Formatting targets w v) (d : ℕ) :
    Formatting targets w { v with now := v.now + d } :=
  hf.same (Nat.le_add_right _ _) rfl rfl rfl rfl rfl fun _ _ _ => rfl

lemma luksChanged (hf : Formatting targets w v) {luks : ℕ → Option Header}
    (hluks : ∀ j < w.fs.next, ¬ w.Reached targets j → luks j = v.luks j) :
    Formatting targets w { v with luks := luks } :=
  hf.same le_rfl rfl rfl rfl rfl rfl hluks

lemma lose (hf : Formatting targets w v) {t : String} (ht : t ∈ targets) {i : ℕ}
    (hi : v.fs.node t = some i) (lost : ℕ → Bool) : Formatting targets w (v.lose i lost) := by
  refine hf.luksChanged fun j hj hr => ?_
  have hreach : v.fs.reaches i j = false := by
    by_contra hne
    exact hr (hf.reached ht hi hj (by simpa using hne))
  simp [hreach]

/-- One header replaced where a target leads. -/
lemma replace (hf : Formatting targets w v) {t : String} (ht : t ∈ targets) {i : ℕ}
    (hi : v.fs.node t = some i) (h : Option Header) :
    Formatting targets w { v with luks := Function.update v.luks i h } := by
  refine hf.luksChanged fun j hj hr => ?_
  have hne : j ≠ i := by
    rintro rfl
    exact hr (hf.reached ht hi hj (v.fs.reaches_self j))
  rw [Function.update_of_ne hne]

lemma write (hf : Formatting targets w v) {t : String} (ht : t ∈ targets) (o : Oracle) :
    Formatting targets w (v.write o t).2 := by
  rw [World.write]
  split
  · exact hf
  · rename_i i hi
    exact hf.lose ht hi o.lost

lemma format (hf : Formatting targets w v) {t : String} (ht : t ∈ targets) (o : Oracle)
    (vk : Option VolumeKey) : Formatting targets w (v.format o t vk).2 := by
  rw [World.format]
  split
  · exact hf
  · rename_i i hi
    have hlost := hf.lose ht hi o.lost
    split
    · exact hlost
    · exact hlost.replace ht hi _

lemma update {α : Type} (hf : Formatting targets w v) {t : String} (ht : t ∈ targets) (o : Oracle)
    (f : Header → Except String (α × Header)) : Formatting targets w (v.update t o f).2 := by
  rw [World.update]
  split
  · exact hf
  split
  · exact hf
  rename_i i hi
  split
  · exact hf
  split
  · exact hf
  · exact hf.replace ht hi _

lemma createFile (hf : Formatting targets w v) {t : String} (ht : t ∈ targets) (o : Oracle) :
    Formatting targets w (v.createFile o t).2 := by
  -- a regular file reaches itself only, and is newer than anything in question
  have hnew : Formatting targets w { v with fs := v.fs.create t FileKind.regular o.aliases } := by
    refine hf.create fun j hj hr => ?_
    have hne : v.fs.next ≠ j := by
      have := hf.next_le
      omega
    simp [FileSystem.reaches, FileSystem.create, hne] at hr
  rcases v.createFile_cases o t with hsame | ⟨-, hcreated⟩ | ⟨i, hi, hold⟩
  · rwa [hsame]
  · rwa [hcreated]
  · rw [hold]
    exact hf.replace ht hi none

lemma partprobe (hf : Formatting targets w v) {t : String} (ht : t ∈ targets) (o : Oracle) :
    Formatting targets w (v.partprobe o t) := by
  rw [World.partprobe]
  split
  · rename_i disk hkind
    split_ifs
    · refine hf.create fun j hj hr => ?_
      obtain ⟨i, hi, hkind⟩ := Option.map_eq_some_iff.mp hkind
      refine hf.reached ht hi hj ?_
      have hjlt := lt_of_lt_of_le hj hf.next_le
      have hne : v.fs.next ≠ j := by omega
      -- the new partition reaches the whole disk, and that is what the target is
      simp only [FileSystem.reaches, FileSystem.create, Function.update_self,
        Function.update_of_ne hne.symm, Bool.or_eq_true, beq_iff_eq, hne, false_or] at hr
      simp only [FileSystem.reaches, hkind, Bool.or_eq_true]
      right
      cases hj' : v.fs.kind j with
      | block d whole =>
          simp only [hj', Bool.and_eq_true, beq_iff_eq, Bool.or_eq_true] at hr ⊢
          exact ⟨hr.1, Or.inl trivial⟩
      | _ => simp [hj'] at hr
    · exact hf
  · exact hf

/-- **One command of formatting**, other than the one that caches the key. -/
lemma step {who : Option ℕ} {c : Cmd} (hc : c.FormatsOn targets False) (o : Oracle)
    (hf : Formatting targets w v) : Formatting targets w (exec who c o v).2 := by
  have hlater := hf.later o.elapsed
  cases c with
  | wipefs d => exact hlater.write hc o
  | gptZapAndPartition d => exact hlater.write hc o
  | partprobe d => exact hlater.partprobe hc o
  | format d vk => exact hlater.format hc o vk
  | addByKey d vk pw => exact hlater.update hc o _
  | createFile d => exact hlater.createFile hc o
  | writeAll d offset bytes => exact hlater.write hc o
  | chown d uid gid =>
      simp only [exec, answer]
      split
      · exact hlater.same le_rfl rfl rfl rfl rfl rfl fun _ _ _ => rfl
      · exact hlater
  | cacheInsert d vk => exact hc.2.elim
  | _ => first | exact hlater | exact hc.elim

end Formatting

/-! ## A keyless format -/

variable {who : Option ℕ} {A : Oracle → Prop} {targets : List String} {w : World} {path : String}

/-- A program that formats the targets does no more than that. -/
lemma keeps_formatting {α : Type} {p : Op α} (hp : p.AllCalls (Cmd.FormatsOn targets False)) :
    p.Keeps (exec who) A (Formatting targets w) :=
  Prog.Keeps.of_allCalls (fun _ o _ hc _ hf => hf.step hc o) hp

/-- A format that succeeded has put its key there. -/
lemma format_ok {o : Oracle} {v : World} {vk : VolumeKey} {u : Unit}
    (hok : (exec who (Cmd.format path (some vk)) o v).1 = Except.ok u) :
    ((exec who (Cmd.format path (some vk)) o v).2.header path).map Header.volumeKey = some vk := by
  simp only [exec, answer, World.format] at hok ⊢
  cases hi : v.fs.node path with
  | none => simp [hi] at hok
  | some i =>
      cases hfault : o.fault with
      | some e => simp [hi, hfault] at hok
      | none => simp [World.header, hi, Header.fresh]

lemma format_error {o : Oracle} {v : World} {vk : Option VolumeKey} {e : String}
    (herr : (exec who (Cmd.format path vk) o v).1 = Except.error e) :
    o.fault.isSome ∨ v.fs.node path = none := by
  simp only [exec, answer, World.format] at herr
  cases hi : v.fs.node path with
  | none => exact Or.inr rfl
  | some i =>
      cases hfault : o.fault with
      | some e => exact Or.inl rfl
      | none => simp [hi, hfault] at herr

/-- The size of the keyslots area is a setting of the session. -/
lemma applyKeyslotsArea_later (area : KeyslotsArea) (v : World) :
    (applyKeyslotsArea area).wp (exec who) A
      (fun x v' => v.Later v' ∧ ∀ e, x = Except.error e → Faulty A) v := by
  rw [applyKeyslotsArea]
  split_ifs
  · refine wp_ask_orFail_last (c := Cmd.setMetadataSize) (r := id) (fun o _ _ _ => ?_)
      (fun o e ho he => ?_)
    · exact ⟨⟨o.elapsed, rfl⟩, fun e he => by cases he⟩
    · refine ⟨⟨o.elapsed, rfl⟩, fun _ _ => ⟨o, ho, ?_⟩⟩
      cases hfault : o.fault with
      | some e => rfl
      | none => simp [exec, answer, Oracle.unlessFault, hfault] at he
  · exact ⟨World.Later.refl v, fun e he => by cases he⟩

/-- How a keyless format turns out: the new key is on the disk and in the cache, or it failed
because a call did or because there is nothing at the path. -/
def KeylessOutcome (A : Oracle → Prop) (targets : List String) (path : String) (w v : World)
    (x : Except String Unit) (w' : World) : Prop :=
  match x with
  | Except.ok _ => ∃ u vk, Formatting targets w u
      ∧ (u.header path).map Header.volumeKey = some vk ∧ w' = u.cacheInsert path vk
  | Except.error _ => Formatting targets w w' ∧ (Faulty A ∨ v.fs.node path = none)

/-- A format without a passphrase: the header is there and the key is cached, or something failed. -/
lemma formatLuks2Keyless_outcome (hpath : path ∈ targets) (area : KeyslotsArea) {v : World}
    (hf : Formatting targets w v) :
    (formatLuks2Keyless path area).wp (exec who) A (KeylessOutcome A targets path w v) v := by
  intro o₀ _
  have hlater₀ : v.Later (exec who (Cmd.osRandom 64) o₀ v).2 := ⟨o₀.elapsed, rfl⟩
  have hf₀ : Formatting targets w (exec who (Cmd.osRandom 64) o₀ v).2 :=
    @Formatting.step targets w v who (Cmd.osRandom 64) trivial o₀ hf
  generalize (exec who (Cmd.osRandom 64) o₀ v).1 = vk
  generalize (exec who (Cmd.osRandom 64) o₀ v).2 = v₀ at hlater₀ hf₀
  refine wp_ask_orFail (c := Cmd.init path) (r := id) (fun o₁ _ _ _ => ?_) (fun o₁ e ho₁ he => ?_)
  · have hlater₁ := hlater₀.trans ⟨o₁.elapsed, rfl⟩
    have hf₁ := @Formatting.step targets w v₀ who (Cmd.init path) hpath o₁ hf₀
    refine Prog.wp_bind (Prog.wp_mono (fun x v₂ hx => ?_) (Prog.wp_and
      (applyKeyslotsArea_later area _) (keeps_formatting
        (formatsOn_of_at hpath (applyKeyslotsArea_formats area)) _ hf₁)))
    obtain ⟨⟨hlater₂, hreason⟩, hf₂⟩ := hx
    cases x with
    | error e => exact ⟨hf₂, Or.inl (hreason e rfl)⟩
    | ok _ =>
        refine wp_ask_orFail (c := Cmd.format path (some ⟨vk⟩)) (r := id) (fun o₃ _ _ hok => ?_)
          (fun o₃ e ho₃ he => ?_)
        · have hf₃ := @Formatting.step targets w v₂ who (Cmd.format path (some ⟨vk⟩)) hpath o₃ hf₂
          intro o₄ _
          exact ⟨_, ⟨vk⟩, hf₃.later o₄.elapsed, format_ok hok, rfl⟩
        · refine ⟨Formatting.step (c := Cmd.format path (some ⟨vk⟩)) hpath o₃ hf₂, ?_⟩
          rcases format_error he with hfault | hnone
          · exact Or.inl ⟨o₃, ho₃, hfault⟩
          · obtain ⟨d, rfl⟩ := hlater₁.trans hlater₂
            exact Or.inr hnone
  · refine ⟨Formatting.step (c := Cmd.init path) hpath o₁ hf₀, ?_⟩
    rcases init_error he with hfault | hnone
    · exact Or.inl ⟨o₁, ho₁, hfault⟩
    · refine Or.inr ?_
      obtain ⟨d, rfl⟩ := hlater₀
      exact hnone

end LuksEnroll
