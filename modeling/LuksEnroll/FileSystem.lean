import Mathlib.Tactic.SplitIfs
import Mathlib.Data.Nat.Notation
import Mathlib.Logic.Function.Basic

/-!
# The file system

What the service can see of the file system: which object a path reaches, what that object is and
who owns it, how a path canonicalizes, and the text of small files such as those of sysfs.  Every
part is an arbitrary function, so symbolic links, hard links and foreign names need no modelling
of their own; the fields of the structure say how the parts hang together.

Objects are numbered.  A block device knows the kernel name of the disk it belongs to, and whether
it is the whole disk.

The text of a path is looked at in a few places only: for its last part, for its directory, and for the
forms that the service gives meaning to.  These functions follow the standard library of the source,
which leaves out empty parts and single dots.
-/

namespace LuksEnroll

/-- What an object is. -/
inductive FileKind : Type
  | regular
  | directory
  | block (disk : String) (whole : Bool)
  | other
  deriving DecidableEq

/-- A file system, as the service sees it: what paths lead to, and what is there. -/
structure FileSystem where
  /-- The object a path reaches, symbolic links followed. -/
  node : String → Option ℕ
  /-- `std::fs::canonicalize`, which may fail for a path that reaches an object. -/
  canonicalize : String → Option String
  kind : ℕ → FileKind
  uid : ℕ → ℕ
  /-- `std::fs::read_to_string`. -/
  text : String → Option String
  /-- The number the next new object gets. -/
  next : ℕ
  node_lt : ∀ p i, node p = some i → i < next
  canonicalize_node : ∀ p q, canonicalize p = some q → node q = node p ∧ (node p).isSome

namespace FileSystem

/-- `std::fs::metadata`, as far as the file type goes. -/
def kindAt (fs : FileSystem) (path : String) : Option FileKind := (fs.node path).map fs.kind

/-- `Path::exists`. -/
def pathExists (fs : FileSystem) (path : String) : Bool := (fs.node path).isSome

/-- A write to one object reaches the content of another: they are the same, or one is a whole
disk and the other lies on it. -/
def reaches (fs : FileSystem) (i j : ℕ) : Bool :=
  i == j || match fs.kind i, fs.kind j with
    | FileKind.block d w, FileKind.block d' w' => d == d' && (w || w')
    | _, _ => false

lemma reaches_self (fs : FileSystem) (i : ℕ) : fs.reaches i i = true := by simp [reaches]

/-- A new object of kind `k` at a path that reached nothing.  `aliases` are the other spellings
that reach it from now on. -/
def create (fs : FileSystem) (path : String) (k : FileKind) (aliases : String → Bool) :
    FileSystem where
  node := fun p => if fs.node p = none ∧ (p = path ∨ aliases p) then some fs.next else fs.node p
  canonicalize := fun p =>
    if fs.node p = none ∧ fs.node path = none ∧ (p = path ∨ aliases p) then some path
    else fs.canonicalize p
  kind := Function.update fs.kind fs.next k
  uid := fs.uid
  text := fs.text
  next := fs.next + 1
  node_lt := fun p i hi => by
    split at hi
    · have := Option.some.inj hi
      omega
    · have := fs.node_lt p i hi
      omega
  canonicalize_node := fun p q hq => by
    split at hq
    · rename_i h
      obtain rfl := Option.some.inj hq
      rw [if_pos ⟨h.2.1, Or.inl rfl⟩, if_pos ⟨h.1, h.2.2⟩]
      exact ⟨rfl, rfl⟩
    · obtain ⟨hn, hs⟩ := fs.canonicalize_node p q hq
      obtain ⟨i, hi⟩ := Option.isSome_iff_exists.mp hs
      rw [hi] at hn
      simp [hi, hn]

/-- The file system that holds exactly the listed paths, each an object of its own, with the
listed texts. -/
def ofList (files : List (String × FileKind × ℕ)) (texts : List (String × String)) :
    FileSystem where
  node := fun p => files.findIdx? fun f => f.1 = p
  canonicalize := fun p => if (files.findIdx? fun f => f.1 = p).isSome then some p else none
  kind := fun i => (files[i]?.map fun f => f.2.1).getD FileKind.other
  uid := fun i => (files[i]?.map fun f => f.2.2).getD 0
  text := fun p => (texts.find? fun t => t.1 = p).map Prod.snd
  next := files.length
  node_lt := fun p i hi => (List.findIdx?_eq_some_iff_findIdx_eq.mp hi).1
  canonicalize_node := fun p q hq => by
    split at hq
    · rename_i h
      obtain rfl := Option.some.inj hq
      exact ⟨rfl, h⟩
    · exact absurd hq (by simp)

/-- A new owner. -/
def chown (fs : FileSystem) (i : ℕ) (uid : ℕ) : FileSystem :=
  { fs with uid := Function.update fs.uid i uid }

/-- Creating a file moves no path that led somewhere before. -/
lemma create_node_of_some {fs : FileSystem} {path : String} {k : FileKind}
    {aliases : String → Bool} {p : String} {i : ℕ} (h : fs.node p = some i) :
    (fs.create path k aliases).node p = some i := by
  simp [create, h]

lemma create_kind_of_lt {fs : FileSystem} {path : String} {k : FileKind}
    {aliases : String → Bool} {i : ℕ} (h : i < fs.next) :
    (fs.create path k aliases).kind i = fs.kind i := by
  simp [create, Function.update_of_ne (Nat.ne_of_lt h)]

end FileSystem

/-! ## Texts

Splitting and trimming, as the source does with the lines of a file and the parts of a path.
-/

/-- Unicode's `White_Space`, which `str::trim` removes. -/
def isWhiteSpace (c : Char) : Bool :=
  let n := c.toNat
  (9 ≤ n && n ≤ 13) || n == 0x20 || n == 0x85 || n == 0xA0 || n == 0x1680
    || (0x2000 ≤ n && n ≤ 0x200A) || n == 0x2028 || n == 0x2029 || n == 0x202F || n == 0x205F
    || n == 0x3000

/-- `str::trim`. -/
def trim (s : String) : String :=
  String.ofList ((s.toList.dropWhile isWhiteSpace).reverse.dropWhile isWhiteSpace).reverse

/-- `str::split` at a character. -/
def splitChar (sep : Char) : List Char → List (List Char)
  | [] => [[]]
  | c :: cs =>
      if c = sep then [] :: splitChar sep cs
      else match splitChar sep cs with
        | [] => [[c]]
        | seg :: segs => (c :: seg) :: segs

/-- A text without the separator is one piece. -/
lemma splitChar_of_notMem {sep : Char} {seg : List Char} (h : sep ∉ seg) :
    splitChar sep seg = [seg] := by
  induction seg with
  | nil => rfl
  | cons c seg ih =>
      simp only [List.mem_cons, not_or] at h
      simp [splitChar, Ne.symm h.1, ih h.2]

/-- The first piece ends where the first separator stands. -/
lemma splitChar_append {sep : Char} {seg : List Char} (h : sep ∉ seg) (rest : List Char) :
    splitChar sep (seg ++ sep :: rest) = seg :: splitChar sep rest := by
  induction seg with
  | nil => simp [splitChar]
  | cons c seg ih =>
      simp only [List.mem_cons, not_or] at h
      simp [splitChar, Ne.symm h.1, ih h.2]

lemma notMem_of_mem_splitChar {sep : Char} {cs seg : List Char} (hseg : seg ∈ splitChar sep cs) :
    sep ∉ seg := by
  induction cs generalizing seg with
  | nil =>
      rw [splitChar, List.mem_singleton] at hseg
      simp [hseg]
  | cons c cs ih =>
      rw [splitChar] at hseg
      split_ifs at hseg with hc
      · rcases List.mem_cons.mp hseg with rfl | hseg
        · simp
        · exact ih hseg
      · cases hrest : splitChar sep cs with
        | nil =>
            rw [hrest] at hseg
            obtain rfl := List.mem_singleton.mp hseg
            simp [Ne.symm hc]
        | cons s segs =>
            rw [hrest] at hseg ih
            rcases List.mem_cons.mp hseg with rfl | hseg
            · simpa [Ne.symm hc] using ih (List.mem_cons_self ..)
            · exact ih (List.mem_cons_of_mem _ hseg)

/-- Splitting gives at least one piece, if only an empty one. -/
lemma splitChar_ne_nil (sep : Char) (cs : List Char) : splitChar sep cs ≠ [] := by
  cases cs with
  | nil => simp [splitChar]
  | cons c cs =>
      rw [splitChar]
      split_ifs
      · simp
      · cases splitChar sep cs <;> simp

/-- Splitting inverts joining, for segments without the separator. -/
lemma splitChar_intercalate {sep : Char} {segs : List (List Char)} (hne : segs ≠ [])
    (hsegs : ∀ seg ∈ segs, sep ∉ seg) : splitChar sep (List.intercalate [sep] segs) = segs := by
  induction segs with
  | nil => exact absurd rfl hne
  | cons seg segs ih =>
      have hseg := hsegs seg (by simp)
      cases segs with
      | nil => rw [List.intercalate_singleton, splitChar_of_notMem hseg]
      | cons seg' segs =>
          have hrest := ih (by simp) fun s hs => hsegs s (List.mem_cons_of_mem _ hs)
          rw [List.intercalate_cons_cons, List.append_assoc, List.singleton_append,
            splitChar_append hseg, hrest]

/-- Nothing is trimmed where there is no white space. -/
lemma trim_of_all {s : String} (hs : ∀ c ∈ s.toList, isWhiteSpace c = false) : trim s = s := by
  have hdrop : ∀ l : List Char, (∀ c ∈ l, isWhiteSpace c = false) →
      l.dropWhile isWhiteSpace = l := by
    intro l hl
    cases l with
    | nil => rfl
    | cons c l => rw [List.dropWhile_cons_of_neg (by simp [hl c (by simp)])]
  rw [trim, hdrop _ hs, hdrop _ (by simpa using hs), List.reverse_reverse, String.ofList_toList]

/-! ## Paths

The parts of a path, and `realpath` of the source, which falls back on the path itself.
-/

/-- `devices::basename`: what follows the last slash. -/
def basename (device : String) : String :=
  String.ofList ((splitChar '/' device.toList).getLastD [])

/-- Drop the trailing segments that `Path` does not count as components: empty ones and `.`.
Segments come in reverse; a relative path's leading `.` does count. -/
def trimBack (absolute : Bool) : List (List Char) → List (List Char)
  | [] => []
  | seg :: segs =>
      if seg = [] ∨ (seg = ['.'] ∧ (segs ≠ [] ∨ absolute)) then trimBack absolute segs
      else seg :: segs

/-- The components of a path in reverse, and whether it is absolute. -/
def components : List Char → Bool × List (List Char)
  | '/' :: cs => (true, trimBack true (splitChar '/' cs).reverse)
  | cs => (false, trimBack false (splitChar '/' cs).reverse)

/-- `Path::parent`. -/
def pathParent (path : String) : Option String :=
  match components path.toList with
  | (_, []) => none
  | (absolute, _ :: segs) =>
      let body := String.ofList (List.intercalate ['/'] (trimBack absolute segs).reverse)
      some (if absolute then "/" ++ body else body)

/-- `Path::file_name`. -/
def pathFileName (path : String) : Option String :=
  match components path.toList with
  | (_, []) => none
  | (_, seg :: _) => if seg = ['.', '.'] ∨ seg = ['.'] then none else some (String.ofList seg)

/-- `Path::join` with a file name. -/
def pathJoin (dir name : String) : String :=
  if dir = "" ∨ dir.toList.getLast? = some '/' then dir ++ name else dir ++ "/" ++ name

/-- `fd_path`. -/
def fdPath (fd : ℕ) : String := "/proc/self/fd/" ++ toString fd

namespace FileSystem

/-- `LuksEnrollService::realpath`: resolve as far as possible, never fail. -/
def realpath (fs : FileSystem) (path : String) : String :=
  match fs.canonicalize path with
  | some p => p
  | none =>
      match pathParent path, pathFileName path with
      | some parent, some name =>
          match fs.canonicalize parent with
          | some rp => pathJoin rp name
          | none => path
      | _, _ => path

/-- `luks::realpath`, the key of the volume-key cache: the path itself when it does not resolve. -/
def cacheKey (fs : FileSystem) (device : String) : String := (fs.canonicalize device).getD device

/-- A path and its cache key reach the same object. -/
lemma node_cacheKey (fs : FileSystem) (device : String) :
    fs.node (fs.cacheKey device) = fs.node device := by
  rw [cacheKey]
  cases h : fs.canonicalize device with
  | none => rfl
  | some q => exact (fs.canonicalize_node device q h).1

/-- Objects were added; the old ones have the paths and the cache keys they had. -/
structure Grew (fs fs' : FileSystem) : Prop where
  next_le : fs.next ≤ fs'.next
  node : ∀ p, ∀ i < fs.next, fs'.node p = some i ↔ fs.node p = some i
  cacheKey : ∀ p, (fs.node p).isSome → fs'.cacheKey p = fs.cacheKey p

lemma Grew.refl (fs : FileSystem) : fs.Grew fs := ⟨Nat.le_refl _, fun _ _ _ => Iff.rfl, fun _ _ => rfl⟩

lemma grew_create (fs : FileSystem) (path : String) (k : FileKind) (aliases : String → Bool) :
    fs.Grew (fs.create path k aliases) where
  next_le := Nat.le_succ _
  node := fun p i hi => by
    refine ⟨fun h => ?_, create_node_of_some⟩
    simp only [create] at h
    split at h
    · have hnext := Option.some.inj h
      omega
    · exact h
  cacheKey := fun p hp => by
    have hold : fs.node p ≠ none := Option.isSome_iff_ne_none.mp hp
    simp [FileSystem.cacheKey, create, hold]

/-- `devices::read_sysfs`: the trimmed text. -/
def readSysfs (fs : FileSystem) (path : String) : Option String := (fs.text path).map trim

end FileSystem

end LuksEnroll
