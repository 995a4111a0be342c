import LuksEnroll.KeyEvidence

/-!
# Histories of the volume-key cache

The service takes calls as they come and works on many at a time.  Its whole history accounts for
what the volume-key cache answers: somebody put that key there for the same canonical path less than
two minutes ago, after a keyless format or after a keyslot gave it up, and looking it up did not make
it last longer.

**Permanence.**  A header without keyslots gives up no key, so once its key has left the cache nothing
can bring it back: not an enrollment, not a wipe, nor a lookup by another path.  What is needed for
this besides is that nobody holds the key at that moment (`KeyInHand`), since a call that has the key
in its memory goes on with it when the cache has forgotten it already.

The file system may grow, other volumes may be formatted, and any amount of time may pass.

`Stepped` says once for every command what it can do to the time, the files, the headers and the cache.
All invariants of histories are read off it, and none of them looks into a command again.
-/

namespace LuksEnroll

open Library
open Prog (Tells)

/-! ## One command

What a command can do to the service, once for all of them: time goes forward, files that are there
stay, a header without keyslots is given one by `addByKey` or a format and by nothing else, and an
entry of the cache comes from one command only.
-/

/-- The header on an object has no keyslots. -/
def Header.NoKeyslots (h : Header) : Prop := ∀ i, h.keyslots i = none

/-- The commands that can give the header on an object a keyslot, or replace it: a keyslot is added
there, or a format succeeds. -/
def Cmd.GivesKeyslot (o : Oracle) (w : World) (obj : ℕ) : Cmd → Prop
  | Cmd.addByKey device _ _ => w.fs.node device = some obj
  | Cmd.format device _ => w.fs.node device = some obj ∧ o.fault = none
  | _ => False

/-- **What one command can do** to the clock, the file system, the cache and the headers. -/
structure Stepped (c : Cmd) (o : Oracle) (w w' : World) : Prop where
  now : w'.now = w.now + o.elapsed
  fs : w.fs.Grew w'.fs
  /-- Entries are made by insertions only. -/
  cache : ∀ key entry, w'.cache key = some entry →
    (∃ device vk, c = Cmd.cacheInsert device vk ∧ w.fs.cacheKey device = key ∧
      w'.fs = w.fs ∧ entry = (vk, w'.now)) ∨
    w.cache key = some entry ∧ ∀ device vk, c = Cmd.cacheInsert device vk →
      w.fs.cacheKey device ≠ key
  /-- Other commands give no header a keyslot. -/
  header : ∀ obj h', ¬ c.GivesKeyslot o w obj → w'.luks obj = some h' →
    ∃ h, w.luks obj = some h ∧ (h.NoKeyslots → h'.NoKeyslots)

section Command

variable {who : Option ℕ} {c : Cmd} {o : Oracle} {w w' : World}

lemma Stepped.of_luks (hc : ∀ device vk, c ≠ Cmd.cacheInsert device vk)
    (hw' : ∃ luks, w' = { w with now := w.now + o.elapsed, luks := luks })
    (hluks : ∀ obj h', ¬ c.GivesKeyslot o w obj → w'.luks obj = some h' →
      ∃ h, w.luks obj = some h ∧ (h.NoKeyslots → h'.NoKeyslots)) : Stepped c o w w' := by
  obtain ⟨luks, rfl⟩ := hw'
  exact ⟨rfl, FileSystem.Grew.refl _, fun _ _ hentry =>
    Or.inr ⟨hentry, fun device vk hinsert => absurd hinsert (hc device vk)⟩, hluks⟩

/-- Commands that lose headers at most, and make the file system grow. -/
lemma Stepped.of_lost (hc : ∀ device vk, c ≠ Cmd.cacheInsert device vk)
    (hnow : w'.now = w.now + o.elapsed) (hfs : w.fs.Grew w'.fs) (hcache : w'.cache = w.cache)
    (hluks : ∀ obj h, w'.luks obj = some h → w.luks obj = some h) : Stepped c o w w' where
  now := hnow
  fs := hfs
  cache := fun _ _ hentry =>
    Or.inr ⟨hcache ▸ hentry, fun device vk hinsert => absurd hinsert (hc device vk)⟩
  header := fun obj h' _ hh' => ⟨h', hluks obj h' hh', id⟩

lemma lose_luks {i obj : ℕ} {lost : ℕ → Bool} {h : Header}
    (hh : (w.lose i lost).luks obj = some h) : w.luks obj = some h := by
  simp only [World.lose] at hh
  split_ifs at hh
  exact hh

lemma update_luks {α : Type} {device : String} {f : Header → Except String (α × Header)} {obj : ℕ}
    {h' : Header} (hh' : (w.update device o f).2.luks obj = some h') :
    w.luks obj = some h' ∨
      w.fs.node device = some obj ∧ ∃ h a, w.luks obj = some h ∧ f h = Except.ok (a, h') := by
  rcases World.update_cases w device o f with ⟨h, a, h₁, -, hh, hf, -, hwrote⟩ | ⟨e, hres, -⟩
  · obtain ⟨i, hi, hluks⟩ := Option.bind_eq_some_iff.mp hh
    rw [hwrote.luks i hi] at hh'
    by_cases hobj : obj = i
    · subst hobj
      rw [Function.update_self] at hh'
      obtain rfl := Option.some.inj hh'
      exact Or.inr ⟨hi, h, a, hluks, hf⟩
    · rw [Function.update_of_ne hobj] at hh'
      exact Or.inl hh'
  · rw [hres] at hh'
    exact Or.inl hh'

lemma Stepped.of_same (hc : ∀ device vk, c ≠ Cmd.cacheInsert device vk) :
    Stepped c o w { w with now := w.now + o.elapsed } :=
  Stepped.of_lost hc rfl (FileSystem.Grew.refl _) rfl fun _ _ hh => hh

lemma cacheGet_stepped (device : String) (o : Oracle) (w : World) :
    Stepped (Cmd.cacheGet device) o w (exec who (Cmd.cacheGet device) o w).2 := by
  refine ⟨?_, ?_, fun key entry hentry => Or.inr ⟨?_, by simp⟩, fun obj h' _ hh' => ⟨h', ?_, id⟩⟩
  all_goals simp only [exec, answer, World.cacheGet] at *
  · split <;> rfl
  · split <;> exact FileSystem.Grew.refl _
  · split at hentry
    · exact hentry
    · by_cases hkey : key = w.fs.cacheKey device
      · simp [hkey] at hentry
      · simpa [Function.update_of_ne hkey] using hentry
  · split at hh' <;> exact hh'

lemma cacheInsert_stepped (device : String) (vk : VolumeKey) (o : Oracle) (w : World) :
    Stepped (Cmd.cacheInsert device vk) o w (exec who (Cmd.cacheInsert device vk) o w).2 := by
  refine ⟨rfl, FileSystem.Grew.refl _, fun key entry hentry => ?_, fun obj h' _ hh' => ⟨h', hh', id⟩⟩
  simp only [exec, answer, World.cacheInsert] at hentry
  by_cases hkey : key = w.fs.cacheKey device
  · subst hkey
    simp only [Function.update_self, Option.some.injEq] at hentry
    exact Or.inl ⟨device, vk, rfl, rfl, rfl, hentry.symm⟩
  · rw [Function.update_of_ne hkey] at hentry
    refine Or.inr ⟨hentry, fun d vk' hinsert => ?_⟩
    obtain ⟨rfl, -⟩ := Cmd.cacheInsert.inj hinsert
    exact Ne.symm hkey

/-- Header writes that make no keyslot, or are known as commands that do. -/
lemma update_stepped {α : Type} {device : String} {f : Header → Except String (α × Header)}
    (hc : ∀ d vk, c ≠ Cmd.cacheInsert d vk)
    (hf : ∀ obj h a h', w.fs.node device = some obj → ¬ c.GivesKeyslot o w obj →
      f h = Except.ok (a, h') → h.NoKeyslots → h'.NoKeyslots) :
    Stepped c o w (World.update { w with now := w.now + o.elapsed } device o f).2 := by
  refine Stepped.of_luks hc (World.update_stored _ _ _ _) fun obj h' hgives hh' => ?_
  rcases update_luks hh' with hsame | ⟨hnode, h, a, hh, hok⟩
  · exact ⟨h', hsame, id⟩
  · exact ⟨h, hh, hf obj h a h' hnode hgives hok⟩

lemma format_stepped (device : String) (vk : Option VolumeKey) (o : Oracle) (w : World) :
    Stepped (Cmd.format device vk) o w (exec who (Cmd.format device vk) o w).2 := by
  refine Stepped.of_luks (by simp) (World.format_stored _ _ _ _) fun obj h' hgives hh' => ?_
  refine ⟨h', ?_, id⟩
  simp only [exec, answer, World.format] at hh'
  split at hh'
  · exact hh'
  · rename_i i hi
    split at hh'
    · exact lose_luks hh'
    · rename_i hfault
      by_cases hobj : obj = i
      · subst hobj
        exact absurd ⟨hi, hfault⟩ hgives
      · simp only [Function.update_of_ne hobj] at hh'
        exact lose_luks hh'

lemma activate_stepped (device name : String) (vk : VolumeKey) (o : Oracle) (w : World) :
    Stepped (Cmd.activateByVolumeKey device name vk) o w
      (exec who (Cmd.activateByVolumeKey device name vk) o w).2 := by
  simp only [exec, answer, World.activate]
  split
  · exact Stepped.of_same (by simp)
  split
  · exact Stepped.of_same (by simp)
  split
  · exact Stepped.of_same (by simp)
  split_ifs
  · exact Stepped.of_lost (by simp) rfl (FileSystem.Grew.refl _) rfl fun _ _ hh => hh
  · exact Stepped.of_same (by simp)

lemma createFile_stepped (path : String) (o : Oracle) (w : World) :
    Stepped (Cmd.createFile path) o w (exec who (Cmd.createFile path) o w).2 := by
  simp only [exec, answer]
  rcases World.createFile_cases { w with now := w.now + o.elapsed } o path with
    hsame | ⟨-, hnew⟩ | ⟨i, -, hold⟩
  · rw [hsame]
    exact Stepped.of_same (by simp)
  · rw [hnew]
    exact Stepped.of_lost (by simp) rfl (FileSystem.grew_create _ _ _ _) rfl fun _ _ hh => hh
  · rw [hold]
    refine Stepped.of_lost (by simp) rfl (FileSystem.Grew.refl _) rfl fun obj h hh => ?_
    by_cases hobj : obj = i
    · simp [hobj] at hh
    · simpa [Function.update_of_ne hobj] using hh

lemma write_stepped (hc : ∀ d vk, c ≠ Cmd.cacheInsert d vk) (device : String) :
    Stepped c o w (World.write { w with now := w.now + o.elapsed } o device).2 := by
  refine Stepped.of_luks hc (World.write_stored _ _ _) fun obj h _ hh => ⟨h, ?_, id⟩
  simp only [World.write] at hh
  split at hh
  · exact hh
  · exact lose_luks hh

/-- A command does one of these to the service, or leaves it as it was. -/
lemma exec_stepped (c : Cmd) (o : Oracle) (w : World) : Stepped c o w (exec who c o w).2 := by
  cases c with
  | cacheGet device => exact cacheGet_stepped device o w
  | cacheInsert device vk => exact cacheInsert_stepped device vk o w
  | addByKey device vk pw =>
      exact update_stepped (by simp) fun obj _ _ _ hnode hgives => absurd hnode hgives
  | tokenJsonSet device input =>
      refine update_stepped (by simp) fun obj h a h' _ _ hset hnone i => ?_
      rw [(jsonSet_keeps hset).1]
      exact hnone i
  | keyslotDestroy device slot =>
      refine update_stepped (by simp) fun obj h a h' _ _ hd hnone i => ?_
      obtain ⟨hsome, -⟩ := Header.destroyKeyslot_spec (keyslotDestroy_ok hd)
      simp [hnone slot] at hsome
  | format device vk => exact format_stepped device vk o w
  | activateByVolumeKey device name vk => exact activate_stepped device name vk o w
  | deactivate name =>
      simp only [exec, answer]
      split
      · exact Stepped.of_same (by simp)
      · exact Stepped.of_lost (by simp) rfl (FileSystem.Grew.refl _) rfl fun _ _ hh => hh
  | createFile path => exact createFile_stepped path o w
  | writeAll path offset bytes => exact write_stepped (by simp) path
  | chown path uid gid =>
      simp only [exec, answer]
      split
      · refine Stepped.of_lost (by simp) rfl ?_ rfl fun _ _ hh => hh
        exact ⟨Nat.le_refl _, fun _ _ _ => Iff.rfl, fun _ _ => rfl⟩
      · exact Stepped.of_same (by simp)
  | wipefs device => exact write_stepped (by simp) device
  | gptZapAndPartition device => exact write_stepped (by simp) device
  | partprobe device =>
      simp only [exec, answer, World.partprobe]
      split
      · split_ifs
        · exact Stepped.of_lost (by simp) rfl (FileSystem.grew_create _ _ _ _) rfl fun _ _ hh => hh
        · exact Stepped.of_same (by simp)
      · exact Stepped.of_same (by simp)
  | _ => exact Stepped.of_same (by simp)

end Command

/-! ## Whole histories

The calls of the service are threads that share its state and a journal.  The history of a call is
its own part of the journal, and what a call says of itself (`KeyRule`) is read off that part.
-/

/-- One command of one call, with the state it met. -/
abbrev ServiceEvent := Event ℕ Cmd Reply World

/-- The state of the service, with all that happened. -/
abbrev ServiceJournal := Journal ℕ Cmd Reply World

/-- The calls of the service, which share its journal. -/
abbrev ServicePool := Pool ℕ Cmd Reply String (Option Answer) ServiceJournal

/-- All calls that will ever come, to a service just started. -/
def ServiceCalls (fs : FileSystem) (luks : ℕ → Option Header) (calls : ℕ → ServiceCall) :
    ServicePool where
  threads := fun i => (calls i).body
  state := ⟨World.start fs luks, []⟩

/-- Each call writes under its own number. -/
def serviceExec (i : ℕ) : Handler Cmd Reply Oracle World := exec (some i)

/-- A run of the service. -/
def ServicePool.serve (p : ServicePool) (sched : List (ℕ × Oracle)) : ServicePool :=
  p.run (journaled serviceExec) sched

/-- What happened, without the thread and the state. -/
def ServiceEvent.what (e : ServiceEvent) : Answered Cmd Reply := ⟨e.cmd, e.reply⟩

/-- A volume key is cached under a canonical path at this event. -/
def ServiceEvent.caches (key : String) (e : ServiceEvent) : Prop :=
  ∃ device vk, e.cmd = Cmd.cacheInsert device vk ∧ e.state.fs.cacheKey device = key

/-- **What the history says of an event.** -/
structure CacheAccounted (calls : ℕ → ServiceCall) (e : ServiceEvent)
    (earlier : List ServiceEvent) : Prop where
  /-- An answer from the cache rests on the latest insertion for the same canonical path. -/
  hit : ∀ device vk, e.what = ⟨Cmd.cacheGet device, some vk⟩ →
    ∃ entry before d, Latest (ServiceEvent.caches (e.state.fs.cacheKey device)) earlier entry before ∧
      entry.cmd = Cmd.cacheInsert d vk ∧
      InsertedBy (calls entry.thread).Verifies d vk (own entry.thread before) ∧
      entry.state.now ≤ e.state.now ∧ e.state.now < entry.state.now + volumeKeyCacheTtl
  /-- Insertions are made by keyless formats, and with keys that a keyslot gave up. -/
  inserted : ∀ device vk, e.cmd = Cmd.cacheInsert device vk →
    InsertedBy (calls e.thread).Verifies device vk (own e.thread earlier)

/-- Headers that gave up their key have a keyslot. -/
def OpenedWithKeyslot (log : List ServiceEvent) : Prop :=
  ∀ e ∈ log, ∀ loaded slot pw r,
    ServiceEvent.what e = ⟨Cmd.volumeKeyGet loaded slot pw, Except.ok r⟩ → ¬ loaded.NoKeyslots

/-- The journal is consistent: time goes forward, the cache holds the latest insertions, headers that
gave up a key have a keyslot, and every event is accounted for. -/
structure CacheConsistent (calls : ℕ → ServiceCall) (j : ServiceJournal) : Prop where
  times : ∀ e ∈ j.log, e.state.now ≤ j.state.now
  entries : ∀ key vk t, j.state.cache key = some (vk, t) →
    ∃ entry before d, Latest (ServiceEvent.caches key) j.log entry before ∧
      entry.cmd = Cmd.cacheInsert d vk ∧ entry.state.now = t
  opened : OpenedWithKeyslot j.log
  accounted : Throughout (CacheAccounted calls) j.log

section Consistent

variable {calls : ℕ → ServiceCall} {i : ℕ} {c : Cmd} {o : Oracle} {j : ServiceJournal}

/-- A command of a call is a step of the service. -/
lemma journaled_stepped (i : ℕ) (c : Cmd) (o : Oracle) (j : ServiceJournal) :
    Stepped c o j.state (journaled serviceExec i c o j).2.state := exec_stepped c o j.state

lemma OpenedWithKeyslot.step (h : OpenedWithKeyslot j.log) (i : ℕ) (c : Cmd) (o : Oracle) :
    OpenedWithKeyslot (journaled serviceExec i c o j).2.log := by
  intro e he loaded slot pw r hwhat
  rcases List.mem_cons.mp he with rfl | he
  · obtain rfl : c = Cmd.volumeKeyGet loaded slot pw := congrArg Sigma.fst hwhat
    have hok : (exec (some i) (Cmd.volumeKeyGet loaded slot pw) o j.state).1 = Except.ok r := by
      simpa [ServiceEvent.what, serviceExec] using hwhat
    obtain ⟨-, k, hk⟩ := volumeKeyGet_ok hok
    intro hnone
    simp [hnone k] at hk
  · exact h e he loaded slot pw r hwhat

/-- What a lookup finds is in the cache, and not too old. -/
lemma cacheGet_entry {device : String} {vk : VolumeKey} {w : World}
    (hget : (exec (some i) (Cmd.cacheGet device) o w).1 = some vk) :
    (exec (some i) (Cmd.cacheGet device) o w).2.fs = w.fs ∧
      ∃ t, w.cache (w.fs.cacheKey device) = some (vk, t) ∧
        w.now + o.elapsed - t < volumeKeyCacheTtl := by
  simp only [exec, answer, World.cacheGet, World.cachedKey] at hget ⊢
  cases hentry : w.cache (w.fs.cacheKey device) with
  | none => simp [hentry, live] at hget
  | some e =>
      obtain ⟨vk', t⟩ := e
      by_cases hlt : w.now + o.elapsed - t < volumeKeyCacheTtl
      · simp only [hentry, live, hlt, if_true] at hget ⊢
        obtain rfl := Option.some.inj hget
        exact ⟨trivial, t, rfl, hlt⟩
      · simp [hentry, live, hlt] at hget

/-- A key that is handed out has an entry behind it, and the entry has a reason. -/
lemma CacheConsistent.lookup (h : CacheConsistent calls j) {device : String} {vk : VolumeKey}
    (hget : (exec (some i) (Cmd.cacheGet device) o j.state).1 = some vk) :
    ∃ entry before d, Latest (ServiceEvent.caches (j.state.fs.cacheKey device)) j.log entry before ∧
      entry.cmd = Cmd.cacheInsert d vk ∧
      InsertedBy (calls entry.thread).Verifies d vk (own entry.thread before) ∧
      entry.state.now ≤ j.state.now + o.elapsed ∧
      j.state.now + o.elapsed < entry.state.now + volumeKeyCacheTtl := by
  obtain ⟨-, t, hentry, hlt⟩ := cacheGet_entry hget
  obtain ⟨entry, before, d, hlatest, hcmd, rfl⟩ := h.entries _ vk t hentry
  have hle := h.times entry hlatest.mem
  have hinserted := (hlatest.split h.accounted).inserted d vk hcmd
  exact ⟨entry, before, d, hlatest, hcmd, hinserted, by omega, by omega⟩

/-- **One command** keeps the journal consistent, if its thread's history allows it. -/
lemma CacheConsistent.step (h : CacheConsistent calls j)
    (hrule : KeyRule (calls i).Verifies c (own i j.log)) :
    CacheConsistent calls (journaled serviceExec i c o j).2 := by
  have hstep := journaled_stepped i c o j
  refine ⟨fun e he => ?_, fun key vk t hentry => ?_, h.opened.step i c o,
    throughout_cons.mpr ⟨⟨fun device vk hwhat => ?_, fun device vk hcmd => ?_⟩, h.accounted⟩⟩
  · rcases List.mem_cons.mp he with rfl | he
    · exact Nat.le_refl _
    · have hle := h.times e he
      have hnow := hstep.now
      omega
  · rcases hstep.cache key (vk, t) hentry with ⟨device, vk', hc, hkey, hfs, hnew⟩ | ⟨hold, hne⟩
    · obtain ⟨rfl, ht⟩ := Prod.mk.inj hnew
      subst hc
      refine ⟨_, j.log, device, Latest.head ⟨device, vk, rfl, ?_⟩ j.log, rfl, ht.symm⟩
      rw [← hkey, ← hfs]
      rfl
    · obtain ⟨entry, before, d, hlatest, hcmd, htime⟩ := h.entries key vk t hold
      refine ⟨entry, before, d, hlatest.cons ?_, hcmd, htime⟩
      rintro ⟨device, vk', hc, hkey⟩
      obtain rfl : c = Cmd.cacheInsert device vk' := hc
      exact hne device vk' rfl hkey
  · obtain rfl : c = Cmd.cacheGet device := congrArg Sigma.fst hwhat
    have hget : (exec (some i) (Cmd.cacheGet device) o j.state).1 = some vk := by
      simpa [ServiceEvent.what, serviceExec] using hwhat
    have hnow := hstep.now
    have hfs := (cacheGet_entry hget).1
    show ∃ entry before d, Latest (ServiceEvent.caches
      ((exec (some i) (Cmd.cacheGet device) o j.state).2.fs.cacheKey device)) j.log entry before ∧ _
    rw [hfs]
    change (exec (some i) (Cmd.cacheGet device) o j.state).2.now = _ at hnow
    obtain ⟨entry, before, d, hlatest, hcmd, hinserted, hle, hlt⟩ := h.lookup hget
    exact ⟨entry, before, d, hlatest, hcmd, hinserted, hnow ▸ hle, hnow ▸ hlt⟩
  · obtain rfl : c = Cmd.cacheInsert device vk := hcmd
    exact hrule

end Consistent

/-! ## A volume whose key is gone

The key is gone when it is not cached, the header has no keyslot and no call has it in its memory.
A call has it in its memory when its own history says so, which can be looked up in the journal.
-/

/-- The volume on an object has no keyslots, and its key is not cached, by whatever path one asks. -/
structure World.Forgotten (w : World) (obj : ℕ) : Prop where
  keyslots : ∀ h, w.luks obj = some h → h.NoKeyslots
  uncached : ∀ path, w.fs.node path = some obj → w.cachedKey path = none

/-- By its own history, a call can still have the key of the volume at a path: it found the key in the
cache, or loaded the header when that had keyslots, or formatted the volume itself. -/
def MayHoldKey (path : String) (past : List (Answered Cmd Reply)) : Prop :=
  (∃ vk, FoundCached path vk past) ∨
    (∃ loaded, ⟨Cmd.load path, Except.ok loaded⟩ ∈ past ∧ ¬ loaded.NoKeyslots) ∨
    ∃ vk, FormattedWith path vk past

/-- The same for the volume on an object. -/
def KeyInHand (w : World) (obj : ℕ) (past : List (Answered Cmd Reply)) : Prop :=
  ∃ path, w.fs.node path = some obj ∧ MayHoldKey path past

/-- What the command is to format. -/
def Cmd.formatted : Cmd → Option String
  | Cmd.format device _ => some device
  | _ => none

/-- The command does not reformat the volume on an object: it is no format of it, or fails. -/
def Cmd.NotReformats (obj : ℕ) (c : Cmd) (o : Oracle) (w : World) : Prop :=
  ∀ device ∈ c.formatted, w.fs.node device = some obj → o.fault ≠ none

instance decidableNotReformats (obj : ℕ) (c : Cmd) (o : Oracle) (w : World) :
    Decidable (c.NotReformats obj o w) :=
  inferInstanceAs (Decidable (∀ device ∈ c.formatted, w.fs.node device = some obj → o.fault ≠ none))

/-- The volume stays forgotten, and nobody has its key. -/
structure Lost (busy : ℕ → Prop) (fs : FileSystem) (obj : ℕ) (j : ServiceJournal) : Prop where
  lt_next : obj < j.state.fs.next
  paths : ∀ path, j.state.fs.node path = some obj ↔ fs.node path = some obj
  forgotten : j.state.Forgotten obj
  opened : OpenedWithKeyslot j.log
  nobody : ∀ i, busy i → ¬ KeyInHand j.state obj (own i j.log)

section Lost

variable {busy : ℕ → Prop} {fs : FileSystem} {obj i : ℕ} {c : Cmd} {o : Oracle} {j : ServiceJournal}

/-- Whoever was given the key has it in hand. -/
lemma Lost.gotKey (h : Lost busy fs obj j) {device : String} {vk : VolumeKey}
    (hnode : j.state.fs.node device = some obj) (hkey : GotKey device vk (own i j.log)) :
    KeyInHand j.state obj (own i j.log) := by
  rcases hkey with hfound | ⟨loaded, slot, pw, s, hload, hget⟩
  · exact ⟨device, hnode, Or.inl ⟨vk, hfound⟩⟩
  · obtain ⟨e, he, -, hwhat⟩ := mem_own.mp hget
    exact ⟨device, hnode, Or.inr (Or.inl ⟨loaded, hload, h.opened e he loaded slot pw _ hwhat⟩)⟩

lemma Lost.not_inserted (h : Lost busy fs obj j) (hi : busy i) {verifies : String → Prop}
    {device : String} {vk : VolumeKey} (hrule : InsertedBy verifies device vk (own i j.log)) :
    j.state.fs.node device ≠ some obj := by
  intro hnode
  refine h.nobody i hi ?_
  rcases hrule with hformat | ⟨hextracted, -⟩
  · exact ⟨device, hnode, Or.inr (Or.inr ⟨some vk, hformat⟩)⟩
  · exact h.gotKey hnode (Or.inr hextracted)

lemma Lost.not_gives (h : Lost busy fs obj j) (hi : busy i) {verifies : String → Prop}
    (hrule : KeyRule verifies c (own i j.log)) (hc : c.NotReformats obj o j.state) :
    ¬ c.GivesKeyslot o j.state obj := by
  intro hgives
  cases c with
  | addByKey device vk pw =>
      refine h.nobody i hi ?_
      cases vk with
      | none => exact ⟨device, hgives, Or.inr (Or.inr ⟨none, hrule⟩)⟩
      | some vk => exact h.gotKey hgives hrule
  | format device vk => exact hc device rfl hgives.1 hgives.2
  | _ => exact hgives

/-- Nothing that is answered now puts the key into somebody's hand. -/
lemma Lost.answer (h : Lost busy fs obj j) (hc : c.NotReformats obj o j.state) {path : String}
    (hnode : j.state.fs.node path = some obj) {past : List (Answered Cmd Reply)}
    (hhand : MayHoldKey path (⟨c, (exec (some i) c o j.state).1⟩ :: past)) :
    MayHoldKey path past := by
  rcases hhand with ⟨vk, hfound⟩ | ⟨loaded, hload, hsome⟩ | ⟨vk, hformat⟩
  · rcases List.mem_cons.mp hfound with heq | hmem
    · obtain rfl : Cmd.cacheGet path = c := congrArg Sigma.fst heq
      have hget : (exec (some i) (Cmd.cacheGet path) o j.state).1 = some vk := by
        simpa using heq.symm
      have hnone := h.forgotten.uncached path hnode
      rw [cacheGet_some hget] at hnone
      cases hnone
    · exact Or.inl ⟨vk, hmem⟩
  · rcases List.mem_cons.mp hload with heq | hmem
    · obtain rfl : Cmd.load path = c := congrArg Sigma.fst heq
      have hok : (exec (some i) (Cmd.load path) o j.state).1 = Except.ok loaded := by
        simpa using heq.symm
      have hheader : j.state.luks obj = some loaded := by
        simpa [World.header, hnode] using load_ok hok
      exact absurd (h.forgotten.keyslots loaded hheader) hsome
    · exact Or.inr (Or.inl ⟨loaded, hmem, hsome⟩)
  · rcases List.mem_cons.mp hformat with heq | hmem
    · obtain rfl : Cmd.format path vk = c := congrArg Sigma.fst heq
      have hok : (exec (some i) (Cmd.format path vk) o j.state).1 = Except.ok () := by
        simpa using heq.symm
      cases hfault : o.fault with
      | none => exact absurd hfault (hc path rfl hnode)
      | some e => simp [exec, answer, World.format, hnode, hfault] at hok
    · exact Or.inr (Or.inr ⟨vk, hmem⟩)

lemma Lost.uncached (h : Lost busy fs obj j) (hi : busy i) {verifies : String → Prop}
    (hrule : KeyRule verifies c (own i j.log)) {path : String}
    (hnode : j.state.fs.node path = some obj) :
    (journaled serviceExec i c o j).2.state.cachedKey path = none := by
  have hstep := journaled_stepped i c o j
  have hkey := hstep.fs.cacheKey path (by simp [hnode])
  by_contra hne
  obtain ⟨vk, hlive⟩ := Option.ne_none_iff_exists'.mp hne
  rw [World.cachedKey, hkey] at hlive
  cases hentry : (journaled serviceExec i c o j).2.state.cache (j.state.fs.cacheKey path) with
  | none => simp [hentry, live] at hlive
  | some entry =>
      rcases hstep.cache _ entry hentry with ⟨device, vk', rfl, hsame, -, -⟩ | ⟨hold, -⟩
      · refine h.not_inserted hi hrule ?_
        rw [← j.state.fs.node_cacheKey, hsame, j.state.fs.node_cacheKey]
        exact hnode
      · have hnone := h.forgotten.uncached path hnode
        rw [World.cachedKey, hold] at hnone
        have hnow := hstep.now
        rw [hentry] at hlive
        have hearlier := live_of_later (by omega : j.state.now ≤ _) hlive
        rw [hnone] at hearlier
        cases hearlier

/-- **One command** of a call that does not have the key, and does not reformat the volume. -/
lemma Lost.step (h : Lost busy fs obj j) (hi : busy i) {verifies : String → Prop}
    (hrule : KeyRule verifies c (own i j.log)) (hc : c.NotReformats obj o j.state) :
    Lost busy fs obj (journaled serviceExec i c o j).2 := by
  have hstep := journaled_stepped i c o j
  have hpaths : ∀ path, (journaled serviceExec i c o j).2.state.fs.node path = some obj ↔
      j.state.fs.node path = some obj := fun path => hstep.fs.node path obj h.lt_next
  refine ⟨lt_of_lt_of_le h.lt_next hstep.fs.next_le, fun path => (hpaths path).trans (h.paths path),
    ⟨fun h' hh' => ?_, fun path hnode => h.uncached hi hrule ((hpaths path).mp hnode)⟩,
    h.opened.step i c o, fun m hm hhand => ?_⟩
  · obtain ⟨g, hg, hkeep⟩ := hstep.header obj h' (h.not_gives hi hrule hc) hh'
    exact hkeep (h.forgotten.keyslots g hg)
  · refine h.nobody m hm ?_
    obtain ⟨path, hnode, hhand⟩ := hhand
    rw [hpaths] at hnode
    refine ⟨path, hnode, ?_⟩
    by_cases him : i = m
    · subst him
      rw [own_journaled_self] at hhand
      exact h.answer hc hnode hhand
    · rw [own_journaled_ne serviceExec him] at hhand
      exact hhand

end Lost

/-! ## Permanence

A call that has not begun when the key is gone never gets it; whatever it answers, it is no answer
that needs the key.  The volume may be formatted anew, of course, and then there is another key:
that is what the condition on the schedule excludes.
-/

/-- The call has not been answered yet; it may be on its way or still to come. -/
def ServicePool.Pending (p : ServicePool) (i : ℕ) : Prop := ∀ x, p.threads i ≠ Prog.ofExcept x

/-- In this part of a run the volume on an object is not reformatted. -/
def ServicePool.NotReformatted (p : ServicePool) (obj : ℕ) (sched : List (ℕ × Oracle)) : Prop :=
  p.Along (journaled serviceExec) (Pool.Issuing fun _ c o j => c.NotReformats obj o j.state) sched

instance decidableNotReformatted (p : ServicePool) (obj : ℕ) (sched : List (ℕ × Oracle)) :
    Decidable (p.NotReformatted obj sched) :=
  inferInstanceAs (Decidable (p.Along (journaled serviceExec)
    (Pool.Issuing fun _ c o j => c.NotReformats obj o j.state) sched))

/-- What comes back when the key is gone: it is not cached, and nothing is enrolled or wiped. -/
def VolumeOp.Refused (m : VolumeOp) (x : Except String (Option Answer)) : Prop :=
  (m = VolumeOp.isVolumeKeyCached → x = Except.ok (some (Answer.flag false))) ∧
    (m.Changes → ∃ t : Triple, x = Except.ok (some (Answer.triple t)) ∧ t.1 = false)

/-- A method that gives no answer that needs the key was refused. -/
lemma VolumeOp.Form.refused {m : VolumeOp} {x : Except String (Option Answer)} (h : m.Form x)
    (hneeds : ∀ a, x = Except.ok (some a) → ¬ m.NeedsKey a) : m.Refused x := by
  refine ⟨fun hm => ?_, fun hm => ?_⟩
  · obtain ⟨b, rfl⟩ := h.1 hm
    cases b with
    | false => rfl
    | true => exact absurd (Or.inl rfl) (hneeds _ rfl)
  · obtain ⟨t, rfl⟩ := h.2 hm
    refine ⟨t, rfl, ?_⟩
    by_contra hdone
    exact hneeds _ rfl (Or.inr ⟨hm, t, rfl, by simpa using hdone⟩)

/-- What is known of a service at any time: its journal is consistent, and each call keeps the rule. -/
def ServicePool.Kept (calls : ℕ → ServiceCall) (p : ServicePool) : Prop :=
  CacheConsistent calls p.state ∧
    ∀ i, (p.threads i).Tells (KeyRule (calls i).Verifies) (calls i).Answers (own i p.state.log)

section Permanence

variable {fs : FileSystem} {luks : ℕ → Option Header} {calls : ℕ → ServiceCall} {p : ServicePool}
  {obj : ℕ}

/-- The calls begin with nothing behind them. -/
lemma kept_serviceCalls : (ServiceCalls fs luks calls).Kept calls := by
  refine ⟨⟨?_, ?_, ?_, throughout_nil _⟩, fun i => (calls i).tells []⟩
  · simp [ServiceCalls]
  · simp [ServiceCalls, World.start]
  · simp [ServiceCalls, OpenedWithKeyslot]

lemma ServicePool.Kept.serve (h : p.Kept calls) (sched : List (ℕ × Oracle)) :
    (p.serve sched).Kept calls :=
  Pool.run_journal_all serviceExec (fun _ _ _ _ hj hP => CacheConsistent.step hj hP) h.2 h.1 sched

/-- The rule is needed of the pending calls only; the others are finished. -/
lemma ServicePool.Kept.pending (h : p.Kept calls) (i : ℕ) :
    (p.threads i).Tells (fun c past => p.Pending i ∧ KeyRule (calls i).Verifies c past)
      (fun x past => p.Pending i → (calls i).Answers x past) (own i p.state.log) := by
  by_cases hi : p.Pending i
  · exact Tells.imp (fun _ _ h => ⟨hi, h⟩) (fun _ _ h _ => h) (h.2 i)
  · simp only [ServicePool.Pending, not_forall, not_not] at hi
    obtain ⟨x, hx⟩ := hi
    rw [hx]
    cases x with
    | ok a => exact fun hpend => absurd hx (hpend _)
    | error e => exact fun hpend => absurd hx (hpend _)

/-- **A run of a service that has lost a key**: it stays lost, and answers that need it are not
given. -/
lemma ServicePool.Kept.lost (h : p.Kept calls) (hlost : Lost p.Pending p.state.state.fs obj p.state)
    {sched : List (ℕ × Oracle)} (hformat : p.NotReformatted obj sched) :
    Lost p.Pending p.state.state.fs obj (p.serve sched).state ∧
      ∀ i x, p.Pending i → (p.serve sched).threads i = Prog.ofExcept x →
        (calls i).Answers x (own i (p.serve sched).state.log) := by
  obtain ⟨hend, htells⟩ := Pool.run_journal serviceExec (J := Lost p.Pending p.state.state.fs obj)
    (fun i c o j hj hP hc => hj.step hP.1 hP.2 hc) h.pending hlost hformat
  refine ⟨hend, fun i x hi hx => ?_⟩
  have htell := htells i
  change ((p.serve sched).threads i).Tells _ _ _ at htell
  rw [hx] at htell
  cases x with
  | ok a => exact htell hi
  | error e => exact htell hi

end Permanence

/-- **The history of the volume-key cache.**  In every run of any calls in any order and with any
timing, a lookup answered from the cache rests on the latest insertion for the same canonical path,
less than 120 seconds ago, and insertions are made by keyless formats, by the two verify functions and
by `get_volume_key` after a lookup that found nothing.

When the volume at a device has no keyslots, its key is not cached, and no call that is still to be
answered has the key in hand, then until it is reformatted the key is not cached again, every later
`IsVolumeKeyCached` on it answers false, and every later enrollment or wipe on it comes back with
`ok = false`. -/
theorem forgotten_for_good (fs : FileSystem) (luks : ℕ → Option Header) (calls : ℕ → ServiceCall)
    (sched₁ sched₂ : List (ℕ × Oracle)) :
    let p₁ := (ServiceCalls fs luks calls).serve sched₁
    let p₂ := p₁.serve sched₂
    Throughout (CacheAccounted calls) p₂.state.log ∧
      ∀ device obj, p₁.state.state.fs.node device = some obj → p₁.state.state.Forgotten obj →
        (∀ i, p₁.Pending i → ¬ KeyInHand p₁.state.state obj (own i p₁.state.log)) →
        p₁.NotReformatted obj sched₂ →
          p₂.state.state.Forgotten obj ∧
            ∀ i d m, p₁.Pending i → calls i = ServiceCall.volume d m →
              p₁.state.state.fs.node d = some obj →
                ∀ x, p₂.threads i = Prog.ofExcept x → m.Refused x := by
  intro p₁ p₂
  have hkept : p₁.Kept calls := kept_serviceCalls.serve sched₁
  refine ⟨(hkept.serve sched₂).1.accounted, fun device obj hnode hforgotten hnobody hformat => ?_⟩
  have hlost : Lost p₁.Pending p₁.state.state.fs obj p₁.state :=
    ⟨p₁.state.state.fs.node_lt device obj hnode, fun _ => Iff.rfl, hforgotten, hkept.1.opened, hnobody⟩
  obtain ⟨hend, hanswers⟩ := hkept.lost hlost hformat
  refine ⟨hend.forgotten, fun i d m hi hcall hd x hx => ?_⟩
  have hanswer := hanswers i x hi hx
  rw [hcall] at hanswer
  refine hanswer.1.refused fun a hok hneeds => ?_
  obtain ⟨vk, hkey⟩ := hanswer.2 a hok hneeds
  exact hend.nobody i hi (hend.gotKey ((hend.paths d).mpr hd) hkey)

/-! ## An image without keyslots

The way into this state that the source itself takes: an image is created without a passphrase, and
its page is left alone for two minutes.
-/

/-- One file, not formatted yet. -/
def imageFile : FileSystem := FileSystem.ofList [("/img", FileKind.regular, 0)] []

/-- A keyless format, a first enrollment, a look at the cache, and what comes later: another
enrollment, and more looks. -/
def imageCalls : ℕ → ServiceCall
  | 0 => ServiceCall.request (Request.createImageFd "/img" "")
  | 1 => ServiceCall.volume "/img" (VolumeOp.enrollPassphrase "" "pw" "passphrase" "")
  | 2 => ServiceCall.volume "/img" VolumeOp.isVolumeKeyCached
  | 3 => ServiceCall.volume "/img" (VolumeOp.enrollPassphrase "pw" "new" "passphrase" "")
  | _ => ServiceCall.volume "/img" VolumeOp.isVolumeKeyCached

/-- The service on this file, after a part of its run. -/
def imageRun (sched : List (ℕ × Oracle)) : ServicePool :=
  (ServiceCalls imageFile (fun _ => none) imageCalls).serve sched

/-- The image is formatted, and two minutes later the cache is looked at. -/
def formatAndWait : List (ℕ × Oracle) :=
  List.replicate 4 (0, Oracle.quiet) ++ [(2, { elapsed := volumeKeyCacheTtl })]

/-- The same, but the first enrollment is under way and has looked up the key. -/
def enrollAndWait : List (ℕ × Oracle) :=
  List.replicate 4 (0, Oracle.quiet) ++ [(1, Oracle.quiet), (2, { elapsed := volumeKeyCacheTtl })]

/-- The first enrollment, on its own. -/
def enrollOnce : List (ℕ × Oracle) := List.replicate 4 (1, Oracle.quiet)

/-- The first enrollment goes on, the second follows, and the cache is looked at again. -/
def enrollTwice : List (ℕ × Oracle) :=
  List.replicate 3 (1, Oracle.quiet) ++ List.replicate 8 (3, Oracle.quiet) ++ [(4, Oracle.quiet)]

/-- The key of the image is forgotten when its two minutes are over. -/
lemma orphaned_forgotten : (imageRun formatAndWait).state.state.Forgotten 0 := by
  have hluks : (imageRun formatAndWait).state.state.luks 0
      = some (Header.fresh ⟨Oracle.quiet.random 64⟩) := rfl
  have hcached : (imageRun formatAndWait).state.state.cachedKey "/img" = none := rfl
  refine ⟨fun h hh i => ?_, fun path hpath => ?_⟩
  · rw [hluks] at hh
    rw [← Option.some.inj hh]
    simp [Header.fresh]
  · have hsame : path = "/img" := by
      change imageFile.node path = some 0 at hpath
      by_contra hne
      simp [imageFile, FileSystem.ofList, Ne.symm hne] at hpath
    rw [hsame]
    exact hcached

/-- The calls that have begun have also ended. -/
lemma orphaned_nobody {i : ℕ} (hi : (imageRun formatAndWait).Pending i) :
    own i (imageRun formatAndWait).state.log = [] := by
  have hlog : (imageRun formatAndWait).state.log.map Event.thread = [2, 0, 0, 0, 0] := rfl
  have hformatted : (imageRun formatAndWait).threads 0 = Prog.ofExcept (Except.ok none) := rfl
  have hlooked : (imageRun formatAndWait).threads 2
      = Prog.ofExcept (Except.ok (some (Answer.flag false))) := rfl
  rw [List.eq_nil_iff_forall_not_mem]
  intro x hx
  obtain ⟨e, he, rfl, -⟩ := mem_own.mp hx
  have hthread := List.mem_map_of_mem (f := Event.thread) he
  rw [hlog] at hthread
  rcases (by simpa using hthread : e.thread = 2 ∨ e.thread = 0) with h | h
  · rw [h] at hi
    exact hi _ hlooked
  · rw [h] at hi
    exact hi _ hformatted

lemma orphaned_pending : (imageRun formatAndWait).Pending 1 := by
  obtain ⟨c, k, hcall⟩ : ∃ c k, (imageRun formatAndWait).threads 1 = Prog.call c k := ⟨_, _, rfl⟩
  intro x hx
  rw [hcall] at hx
  cases x with
  | ok a => simp at hx
  | error e => simp at hx

/-- It is refused, since the header has no keyslot. -/
lemma orphaned_answer : ((imageRun formatAndWait).serve enrollOnce).threads 1
    = Prog.ofExcept (Except.ok (some (Answer.triple opFailed))) := rfl

/-- **Nobody has the key**: two minutes after the format the image is lost, and the enrollment is
refused. -/
theorem orphaned_image_refused :
    (imageRun formatAndWait).state.state.Forgotten 0 ∧
      ((imageRun formatAndWait).serve enrollOnce).state.state.Forgotten 0 ∧
      ∃ x, ((imageRun formatAndWait).serve enrollOnce).threads 1 = Prog.ofExcept x ∧
        (VolumeOp.enrollPassphrase "" "pw" "passphrase" "").Refused x := by
  have hnobody : ∀ i, (imageRun formatAndWait).Pending i →
      ¬ KeyInHand (imageRun formatAndWait).state.state 0 (own i (imageRun formatAndWait).state.log) := by
    intro i hi
    rw [orphaned_nobody hi]
    simp [KeyInHand, MayHoldKey, FoundCached, FormattedWith]
  have hdevice : (imageRun formatAndWait).state.state.fs.node "/img" = some 0 := rfl
  have hformat : (imageRun formatAndWait).NotReformatted 0 enrollOnce := by decide +kernel
  obtain ⟨hend, hanswers⟩ := (forgotten_for_good imageFile (fun _ => none) imageCalls formatAndWait
    enrollOnce).2 "/img" 0 hdevice orphaned_forgotten hnobody hformat
  exact ⟨orphaned_forgotten, hend, _, orphaned_answer,
    hanswers 1 "/img" _ orphaned_pending rfl hdevice _ orphaned_answer⟩

/-- **An enrollment outlives the cache entry.**  The image has no keyslots, and `IsVolumeKeyCached`
answers false; it is not reformatted.  Yet the enrollment that looked up the key before goes on and
adds a keyslot, so an enrollment that comes later succeeds too, and the key is cached again. -/
theorem enrollment_outlives_entry :
    ((imageRun enrollAndWait).state.state.header "/img").map Header.slotIds = some [] ∧
      (imageRun enrollAndWait).threads 2 = Prog.ret (some (Answer.flag false)) ∧
      own 3 (imageRun enrollAndWait).state.log = [] ∧
      own 4 (imageRun enrollAndWait).state.log = [] ∧
      (imageRun enrollAndWait).NotReformatted 0 enrollTwice ∧
      ((imageRun enrollAndWait).serve enrollTwice).threads 3
        = Prog.ret (some (Answer.triple (true, "", ""))) ∧
      ((imageRun enrollAndWait).serve enrollTwice).threads 4
        = Prog.ret (some (Answer.flag true)) := by
  refine ⟨?_, rfl, rfl, rfl, ?_, rfl, rfl⟩
  · decide +kernel
  · decide +kernel

end LuksEnroll
