import LuksEnroll.Service

/-!
# Descriptors and the cache

The `*Fd` methods work on `/proc/self/fd/N`, and the cache is keyed by what that path canonicalizes
to.  Where it does not canonicalize — the file is unlinked, or lies outside the service's mount
namespace — the key is the descriptor's own path, and descriptor numbers are reused: the next file
that happens to get the same number is served the key of the last one
(`reused_descriptor_shares_key`).

Each request comes with the file system as it is at that time, and nothing ties the file systems of two
requests together: descriptors are closed and numbers used again, files are unlinked and renamed, and
a new file may get the path of an old one.  So an entry can go astray in three ways, and
`FdRequest.Separate` shuts out each of them for a pair of requests:

* two descriptors that do not canonicalize have one number and two files, or one file and two numbers;
* one of two descriptors of a file canonicalizes and the other does not, the file having lost or got
  its name in between;
* two descriptors canonicalize, and the canonical path has changed hands: it leads to another file
  now, or the file has another canonical path.

`fd_cache_entries_by_file` says that these are all the ways there are.
-/

namespace LuksEnroll

open Library
open Prog (AllCalls)

/-! ## Requests

A request on a descriptor works under a path that names its number.  What it resolves to is asked of
the file system that this very call faces.
-/

/-- The `*Fd` methods that use the cache, and the one that closes. -/
inductive FdMethod : Type
  | isVolumeKeyCached
  | verifyPassphrase (passphrase : String)
  | unlockWithToken (tokenType pin : String)
  | openVolume (name passphrase unlockMethod unlockPin : String)
  | closeVolume (found : List String)
  | enrollFido2 (passphrase pin fido2Device unlockMethod unlockPin : String)
  | enrollTpm2 (passphrase pin pcrs unlockMethod unlockPin : String)
  | enrollRecoveryKey (passphrase unlockMethod unlockPin : String)
  | enrollPassphrase (existingPassphrase newPassphrase unlockMethod unlockPin : String)
  | wipeSlot (passphrase unlockMethod pin : String) (slot : I32)
  | createEncryptedImage (passphrase : String)

namespace FdMethod

/-- What a method does on the descriptor's path. -/
def body (device : String) : FdMethod → Op Unit
  | isVolumeKeyCached => do
      let _ ← LuksEnroll.isVolumeKeyCached device
      return ()
  | verifyPassphrase passphrase => (Request.verifyPassphrase device passphrase).body
  | unlockWithToken tokenType pin => (Request.unlockWithToken device tokenType pin).body
  | openVolume name passphrase unlockMethod unlockPin =>
      (Request.openVolume device name passphrase unlockMethod unlockPin).body
  | closeVolume found => (Request.closeVolumeFd found).body
  | enrollFido2 passphrase pin fido2Device unlockMethod unlockPin =>
      (Request.slot (SlotRequest.enrollFido2 device passphrase pin fido2Device unlockMethod
        unlockPin)).body
  | enrollTpm2 passphrase pin pcrs unlockMethod unlockPin =>
      (Request.slot (SlotRequest.enrollTpm2 device passphrase pin pcrs unlockMethod unlockPin)).body
  | enrollRecoveryKey passphrase unlockMethod unlockPin =>
      (Request.slot (SlotRequest.enrollRecoveryKey device passphrase unlockMethod unlockPin)).body
  | enrollPassphrase existingPassphrase newPassphrase unlockMethod unlockPin =>
      (Request.slot (SlotRequest.enrollPassphrase device existingPassphrase newPassphrase
        unlockMethod unlockPin)).body
  | wipeSlot passphrase unlockMethod pin slot =>
      (Request.slot (SlotRequest.wipeSlot device passphrase unlockMethod pin slot)).body
  | createEncryptedImage passphrase => (Request.createImageFd device passphrase).body

end FdMethod

/-- A request on a descriptor: its number, the file it refers to, and the file system around it, in
which the descriptor's path reaches the file.  `/proc/self` is a symbolic link, so that no canonical
path goes through it. -/
structure FdRequest where
  fs : FileSystem
  fd : ℕ
  file : ℕ
  method : FdMethod
  node_fd : fs.node (fdPath fd) = some file
  not_proc : ∀ p, fs.canonicalize (fdPath fd) = some p → ∀ n, p ≠ fdPath n

namespace FdRequest

/-- The canonical path of the descriptor's file, if it has one that the service can see. -/
def canonical (r : FdRequest) : Option String := r.fs.canonicalize (fdPath r.fd)

/-- The key of the descriptor's cache entry. -/
def key (r : FdRequest) : String := r.fs.cacheKey (fdPath r.fd)

/-- **The condition on two requests**: both canonicalize, and the canonical path has not changed hands
between them; or neither does, and then they have the same number exactly if they have the same file;
or one of them does, and the files differ. -/
def Separate (r s : FdRequest) : Prop :=
  match r.canonical, s.canonical with
  | some p, some q => p = q ↔ r.file = s.file
  | none, none => r.fd = s.fd ↔ r.file = s.file
  | _, _ => r.file ≠ s.file

/-- `luks::realpath`, on the descriptor's path. -/
lemma key_eq (r : FdRequest) : r.key = r.canonical.getD (fdPath r.fd) := rfl

/-- A canonical path is no descriptor's path. -/
lemma canonical_ne_fdPath {r : FdRequest} {p : String} (hr : r.canonical = some p) (fd : ℕ) :
    p ≠ fdPath fd := r.not_proc p hr fd

end FdRequest

lemma fdPath_injective : Function.Injective fdPath := by
  intro fd fd' h
  have hlist := congrArg String.toList h
  simp only [fdPath, String.toList_append, List.append_cancel_left_eq] at hlist
  exact toString_injective (String.toList_inj.mp hlist)

/-- Two requests share an entry exactly if they are on the same file, and that exactly under the
condition. -/
lemma FdRequest.key_eq_iff (r s : FdRequest) :
    (r.key = s.key ↔ r.file = s.file) ↔ r.Separate s := by
  rw [FdRequest.Separate, FdRequest.key_eq, FdRequest.key_eq]
  cases hr : r.canonical with
  | some p =>
      cases hs : s.canonical with
      | some q => simp
      | none => simp [FdRequest.canonical_ne_fdPath hr s.fd]
  | none =>
      cases hs : s.canonical with
      | some q => simp [(FdRequest.canonical_ne_fdPath hs r.fd).symm]
      | none => simp [fdPath_injective.eq_iff]

/-! ## The cache by file

An entry belongs to a file when it was put there by a request on that file and no other file has
come by its name since.
-/

variable {who : Option ℕ} {A : Oracle → Prop} {α : Type}

/-- For each of the descriptors, the entry under its key is the entry last made for its file, or
that one has expired and been dropped. -/
def CacheByFile (rs : List FdRequest) (w : World) : Prop :=
  ∀ q ∈ rs, w.cache q.key = w.fileCache q.file
    ∨ w.cache q.key = none ∧ live w.now (w.fileCache q.file) = none

lemma CacheByFile.lookup {rs : List FdRequest} {w : World} (hw : CacheByFile rs w)
    {q : FdRequest} (hq : q ∈ rs) :
    live w.now (w.cache q.key) = live w.now (w.fileCache q.file) := by
  rcases hw q hq with hsame | ⟨hnone, hexpired⟩
  · rw [hsame]
  · rw [hnone, hexpired]
    rfl

/-- Commands that leave the file system alone and use the cache for `device` only. -/
def Cmd.CachesOn (device : String) : Cmd → Prop
  | Cmd.cacheGet d => d = device
  | Cmd.cacheInsert d _ => d = device
  | Cmd.createFile _ => False
  | Cmd.chown _ _ _ => False
  | Cmd.partprobe _ => False
  | _ => True

/-- What the other commands do to the file system and the caches: nothing. -/
lemma exec_cachesOn {device : String} {c : Cmd} (hc : c.CachesOn device)
    (hget : c ≠ Cmd.cacheGet device) (hinsert : ∀ vk, c ≠ Cmd.cacheInsert device vk) (o : Oracle)
    (w : World) : (exec who c o w).2.fs = w.fs ∧ (exec who c o w).2.cache = w.cache
      ∧ (exec who c o w).2.fileCache = w.fileCache
      ∧ (exec who c o w).2.now = w.now + o.elapsed := by
  -- most commands change at most what is stored
  have hstored : ∀ {v : World}, (∃ luks, v = { w with now := w.now + o.elapsed, luks := luks }) →
      v.fs = w.fs ∧ v.cache = w.cache ∧ v.fileCache = w.fileCache ∧ v.now = w.now + o.elapsed := by
    rintro v ⟨luks, rfl⟩
    exact ⟨rfl, rfl, rfl, rfl⟩
  cases c with
  | cacheGet d => exact (hget (congrArg Cmd.cacheGet hc)).elim
  | cacheInsert d vk =>
      subst hc
      exact (hinsert vk rfl).elim
  | addByKey d vk pw => exact hstored (World.update_stored _ _ _ _)
  | tokenJsonSet d input => exact hstored (World.update_stored _ _ _ _)
  | keyslotDestroy d slot => exact hstored (World.update_stored _ _ _ _)
  | format d vk => exact hstored (World.format_stored _ _ _ _)
  | activateByVolumeKey d n vk =>
      simp only [exec, answer, World.activate]
      split
      · exact ⟨rfl, rfl, rfl, rfl⟩
      split
      · exact ⟨rfl, rfl, rfl, rfl⟩
      split
      · exact ⟨rfl, rfl, rfl, rfl⟩
      split_ifs <;> exact ⟨rfl, rfl, rfl, rfl⟩
  | deactivate n =>
      simp only [exec, answer]
      split <;> exact ⟨rfl, rfl, rfl, rfl⟩
  | wipefs d => exact hstored (World.write_stored _ _ _)
  | gptZapAndPartition d => exact hstored (World.write_stored _ _ _)
  | writeAll d offset bytes => exact hstored (World.write_stored _ _ _)
  | _ => first | exact ⟨rfl, rfl, rfl, rfl⟩ | exact hc.elim

lemma CacheByFile.later {rs : List FdRequest} {w w' : World} (hw : CacheByFile rs w)
    (hnow : w.now ≤ w'.now) (hcache : w'.cache = w.cache)
    (hfile : w'.fileCache = w.fileCache) : CacheByFile rs w' := by
  intro q hq
  rw [hcache, hfile]
  refine (hw q hq).imp_right fun ⟨hnone, hexpired⟩ => ⟨hnone, ?_⟩
  cases hlive : live w'.now (w.fileCache q.file) with
  | none => rfl
  | some vk => simp [live_of_later hnow hlive] at hexpired

/-- **One command of a request.** -/
lemma cacheByFile_step {rs : List FdRequest}
    (hrs : ∀ q ∈ rs, ∀ q' ∈ rs, q.key = q'.key ↔ q.file = q'.file) {r : FdRequest}
    (hr : r ∈ rs) {c : Cmd} (hc : c.CachesOn (fdPath r.fd)) (o : Oracle) {w : World}
    (hfs : w.fs = r.fs) (hw : CacheByFile rs w) :
    (exec who c o w).2.fs = r.fs ∧ CacheByFile rs (exec who c o w).2 := by
  have hlater : CacheByFile rs { w with now := w.now + o.elapsed } :=
    hw.later (Nat.le_add_right _ _) rfl rfl
  have hkey : w.fs.cacheKey (fdPath r.fd) = r.key := by rw [hfs]; rfl
  by_cases hget : c = Cmd.cacheGet (fdPath r.fd)
  · subst hget
    simp only [exec, answer, World.cacheGet]
    split
    · exact ⟨hfs, hlater⟩
    · rename_i hexpired
      refine ⟨hfs, fun q hq => ?_⟩
      have hexpired' : live (w.now + o.elapsed) (w.cache r.key) = none := by
        rw [← hkey]
        exact hexpired
      simp only [hkey]
      by_cases hqr : q.key = r.key
      · rw [hqr, Function.update_self, (hrs q hq r hr).mp hqr]
        exact Or.inr ⟨rfl, (hlater.lookup hr).symm.trans hexpired'⟩
      · rw [Function.update_of_ne hqr]
        exact hlater q hq
  by_cases hinsert : ∃ vk, c = Cmd.cacheInsert (fdPath r.fd) vk
  · obtain ⟨vk, rfl⟩ := hinsert
    have hnode : w.fs.node (fdPath r.fd) = some r.file := by rw [hfs]; exact r.node_fd
    refine ⟨hfs, fun q hq => ?_⟩
    simp only [exec, answer, World.cacheInsert, hkey, hnode]
    by_cases hqr : q.key = r.key
    · have hfile := (hrs q hq r hr).mp hqr
      rw [hqr, hfile, Function.update_self, Function.update_self]
      exact Or.inl rfl
    · have hfile : q.file ≠ r.file := fun h => hqr ((hrs q hq r hr).mpr h)
      rw [Function.update_of_ne hqr, Function.update_of_ne hfile]
      exact hlater q hq
  · obtain ⟨hfs', hcache, hfile, hnow⟩ := @exec_cachesOn who _ c hc hget
      (fun vk h => hinsert ⟨vk, h⟩) o w
    refine ⟨hfs'.trans hfs, hw.later ?_ hcache hfile⟩
    rw [hnow]
    exact Nat.le_add_right _ _

lemma FdMethod.body_caches (device : String) (m : FdMethod) :
    (m.body device).AllCalls (Cmd.CachesOn device) := by
  have hreads : ∀ c : Cmd, c.ReadsOn device → c.CachesOn device := by
    intro c hc
    cases c <;> first | exact hc | trivial
  have hslot : ∀ r : SlotRequest, r.device = device →
      (Request.slot r).body.AllCalls (Cmd.CachesOn device) := by
    rintro r rfl
    refine AllCalls.bind (r.body_touches.mono fun c hc => ?_) fun _ => trivial
    rcases hc with hread | ⟨vk, pw, rfl⟩ | ⟨input, rfl⟩ | ⟨slot, rfl⟩
    · exact hreads c hread
    · trivial
    · trivial
    · trivial
  cases m with
  | isVolumeKeyCached =>
      exact AllCalls.bind (AllCalls.bind (allCalls_ask.mpr rfl) fun _ => trivial) fun _ => trivial
  | verifyPassphrase passphrase =>
      exact AllCalls.bind ((verifyPassphrase_reads device passphrase).mono hreads) fun _ => trivial
  | unlockWithToken tokenType pin =>
      exact AllCalls.bind ((verifyToken_reads device tokenType pin).mono hreads) fun _ => trivial
  | openVolume name passphrase unlockMethod unlockPin =>
      refine AllCalls.bind ((opOpenVolume_opens device name passphrase unlockMethod unlockPin).mono
        fun c hc => ?_) fun _ => trivial
      rcases hc with hread | ⟨vk, rfl⟩
      · exact hreads c hread
      · trivial
  | closeVolume found =>
      exact (deactivateVolumes_closes found).mono fun c hc => by cases c <;> trivial
  | createEncryptedImage passphrase =>
      refine AllCalls.bind (runCreate_allCalls ((formatContainer_formats fun _ => trivial).mono
        fun c hc => ?_)) fun _ => trivial
      cases c <;> first | trivial | exact hc.1
  | _ => exact hslot _ rfl

/-! ## Every sequence

Requests are served one after another, each with the file system and the number it comes with.
-/

/-- A request on a descriptor and the inputs of its environment. -/
abbrev FdServed := FdRequest × (ℕ → Oracle)

/-- The world when a request is served. -/
def World.facing (w : World) (r : FdRequest) : World := { w with fs := r.fs }

/-- The world after a sequence of requests, each in its own file system. -/
def serveFd : List FdServed → World → World
  | [], w => w
  | x :: xs, w =>
      serveFd xs ((x.1.method.body (fdPath x.1.fd)).run (exec none) x.2 (w.facing x.1)).2

lemma serveFd_cacheByFile {rs : List FdRequest}
    (hrs : ∀ q ∈ rs, ∀ q' ∈ rs, q.key = q'.key ↔ q.file = q'.file) {xs : List FdServed}
    (hxs : ∀ x ∈ xs, x.1 ∈ rs) {w : World} (hw : CacheByFile rs w) :
    CacheByFile rs (serveFd xs w) := by
  induction xs generalizing w with
  | nil => exact hw
  | cons x xs ih =>
      have hx : x.1 ∈ rs := hxs x (by simp)
      refine ih (fun y hy => hxs y (by simp [hy])) ?_
      have hkeeps := Prog.Keeps.of_allCalls (A := fun _ => True)
        (I := fun v : World => v.fs = x.1.fs ∧ CacheByFile rs v)
        (fun c o v hc _ hv => @cacheByFile_step none _ hrs _ hx c hc o v hv.1 hv.2)
        (x.1.method.body_caches (fdPath x.1.fd))
      have hstart : (w.facing x.1).fs = x.1.fs ∧ CacheByFile rs (w.facing x.1) := ⟨rfl, hw⟩
      exact (Prog.wp_sound (hkeeps (w.facing x.1) hstart) x.2 fun _ => trivial).2

/-- **Entries go with files.**  Two requests of a sequence share a cache entry exactly if they are on
the same file if and only if the requests are pairwise separate; and then whatever a request finds in
the cache is the key last cached for its own file, through any descriptor, unless it has expired. -/
theorem fd_cache_entries_by_file (xs : List FdServed) {w : World}
    (hcache : ∀ p, w.cache p = none) (hfile : ∀ i, w.fileCache i = none) :
    ((∀ x ∈ xs, ∀ y ∈ xs, x.1.key = y.1.key ↔ x.1.file = y.1.file)
        ↔ ∀ x ∈ xs, ∀ y ∈ xs, x.1.Separate y.1)
      ∧ ((∀ x ∈ xs, ∀ y ∈ xs, x.1.Separate y.1) → ∀ before x after, xs = before ++ x :: after →
        ((serveFd before w).facing x.1).cachedKey (fdPath x.1.fd)
          = live (serveFd before w).now ((serveFd before w).fileCache x.1.file)) := by
  have hiff : (∀ x ∈ xs, ∀ y ∈ xs, x.1.key = y.1.key ↔ x.1.file = y.1.file)
      ↔ ∀ x ∈ xs, ∀ y ∈ xs, x.1.Separate y.1 :=
    forall₄_congr fun x _ y _ => FdRequest.key_eq_iff x.1 y.1
  refine ⟨hiff, fun hsep before x after hxs => ?_⟩
  have hshare := hiff.mpr hsep
  have hrs : ∀ q ∈ xs.map Prod.fst, ∀ q' ∈ xs.map Prod.fst, q.key = q'.key ↔ q.file = q'.file := by
    intro q hq q' hq'
    obtain ⟨y, hy, rfl⟩ := List.mem_map.mp hq
    obtain ⟨y', hy', rfl⟩ := List.mem_map.mp hq'
    exact hshare y hy y' hy'
  have hstart : CacheByFile (xs.map Prod.fst) w := by
    intro q hq
    left
    rw [hcache, hfile]
  have hbefore : ∀ y ∈ before, y.1 ∈ xs.map Prod.fst := by
    intro y hy
    exact List.mem_map.mpr ⟨y, by simp [hxs, hy], rfl⟩
  have hx : x.1 ∈ xs.map Prod.fst := List.mem_map.mpr ⟨x, by simp [hxs], rfl⟩
  exact (serveFd_cacheByFile hrs hbefore hstart).lookup hx

/-! ## A reused number

Where a descriptor does not resolve, its number is all that the cache goes by, and a number is used
again for another file as soon as it is free.
-/

/-- One file per user directory. -/
def homeName (file : ℕ) : String := "/home/" ++ toString file

lemma homeName_injective : Function.Injective homeName := by
  intro i j h
  have hlist := congrArg String.toList h
  simp only [homeName, String.toList_append, List.append_cancel_left_eq] at hlist
  exact toString_injective (String.toList_inj.mp hlist)

lemma homeName_ne_fdPath (file fd : ℕ) : homeName file ≠ fdPath fd := by
  intro h
  have hlist := congrArg (fun s => s.toList.take 2) h
  simp [homeName, fdPath] at hlist

/-- The file system around descriptor `fd` of a regular file; `linked` says whether the file still
has its name. -/
def aroundFile (fd file : ℕ) (linked : Bool) : FileSystem where
  node := fun p => if p = fdPath fd ∨ linked ∧ p = homeName file then some file else none
  canonicalize := fun p =>
    if linked ∧ (p = fdPath fd ∨ p = homeName file) then some (homeName file) else none
  kind := fun _ => FileKind.regular
  uid := fun _ => 1000
  text := fun _ => none
  next := file + 1
  node_lt := fun p i hi => by
    split at hi
    · obtain rfl := Option.some.inj hi
      exact Nat.lt_succ_self _
    · cases hi
  canonicalize_node := fun p q hq => by
    split at hq
    · rename_i h
      obtain rfl := Option.some.inj hq
      simp only [h.1, true_and]
      simp [h.2]
    · cases hq

/-- A request on descriptor `fd` of a file. -/
def fdRequest (fd file : ℕ) (linked : Bool) (method : FdMethod) : FdRequest where
  fs := aroundFile fd file linked
  fd := fd
  file := file
  method := method
  node_fd := by simp [aroundFile]
  not_proc := fun p hp n => by
    simp only [aroundFile] at hp
    split at hp
    · obtain rfl := Option.some.inj hp
      exact homeName_ne_fdPath file n
    · cases hp

/-- A container is made through descriptor 7 of one unlinked file; then descriptor 7 is one of
another. -/
def reusedDescriptor : List FdServed :=
  [(fdRequest 7 0 false (FdMethod.createEncryptedImage ""), fun _ => Oracle.quiet),
    (fdRequest 7 1 false FdMethod.isVolumeKeyCached, fun _ => Oracle.quiet)]

/-- **The second file is served the key of the first.** -/
theorem reused_descriptor_shares_key :
    (fdRequest 7 0 false (FdMethod.createEncryptedImage "")).key
        = (fdRequest 7 1 false FdMethod.isVolumeKeyCached).key
      ∧ (((serveFd (reusedDescriptor.take 1) (World.start (aroundFile 7 0 false)
        fun _ => none)).facing (fdRequest 7 1 false FdMethod.isVolumeKeyCached)).cachedKey
          (fdPath 7)) = some ⟨List.replicate 64 0⟩
      ∧ (serveFd (reusedDescriptor.take 1) (World.start (aroundFile 7 0 false)
        fun _ => none)).fileCache 1 = none := by
  refine ⟨?_, ?_, ?_⟩ <;> decide +kernel

/-- The same with linked files, and a second descriptor of the first. -/
def linkedDescriptors : List FdServed :=
  [(fdRequest 7 0 true (FdMethod.createEncryptedImage ""), fun _ => Oracle.quiet),
    (fdRequest 7 1 true FdMethod.isVolumeKeyCached, fun _ => Oracle.quiet),
    (fdRequest 8 0 true FdMethod.isVolumeKeyCached, fun _ => Oracle.quiet)]

/-- The key is found through the other descriptor of its file. -/
theorem linked_descriptor_finds_key :
    ((serveFd (linkedDescriptors.take 2) (World.start (aroundFile 7 0 true) fun _ => none)).facing
        (fdRequest 8 0 true FdMethod.isVolumeKeyCached)).cachedKey (fdPath 8)
      = live (serveFd (linkedDescriptors.take 2) (World.start (aroundFile 7 0 true)
          fun _ => none)).now ((serveFd (linkedDescriptors.take 2) (World.start (aroundFile 7 0 true)
            fun _ => none)).fileCache 0) := by
  have hcanonical : ∀ x ∈ linkedDescriptors, x.1.canonical = some (homeName x.1.file) := by
    simp [linkedDescriptors, FdRequest.canonical, fdRequest, aroundFile]
  have hsep : ∀ x ∈ linkedDescriptors, ∀ y ∈ linkedDescriptors, x.1.Separate y.1 := by
    intro x hx y hy
    simp only [FdRequest.Separate, hcanonical x hx, hcanonical y hy]
    exact homeName_injective.eq_iff
  exact (fd_cache_entries_by_file linkedDescriptors (fun _ => rfl) fun _ => rfl).2 hsep
    (linkedDescriptors.take 2) _ [] rfl

end LuksEnroll
