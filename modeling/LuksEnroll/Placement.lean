import LuksEnroll.Gate
import LuksEnroll.Library.Symlinks
import LuksEnroll.Service

/-!
# Where a new image goes

`CreateEncryptedImage` resolves its path, refuses what exists, looks at the first letters of the
resolved text, and then creates, formats and hands over by that text.  Resolving stops where nothing
is found: `realpath` falls back on the directory with the file name appended, and then on the text
it was given.  The calls that follow resolve the text once more, to its end.

So the text and the file it leads to may differ: in a directory under `/home/` a symbolic link that
leads nowhere is what `realpath` leaves standing, nothing exists behind it, its own place is allowed,
and the file is created where it points to (`image_outside`).  `created_inside_iff` says exactly
which paths lead out.

The disk is a tree with symbolic links (`Library.Tree`) that stays as it is during the request.  The
kernel and `realpath(3)` walk it by the same rules, except that `realpath(3)` fails where the text of
a place it passes is longer than a path may be.  The service runs in the root directory.

Places are lists of names, the root the empty one, and a text is resolved part by part (`Library.Tree`).
What a create touches is worked out command by command: `Placed` says that nothing was made yet, or one
file at the place that the path leads to.
-/

namespace LuksEnroll

open Library
open Prog (AllCalls)

/-! ## Names and places

A name has no slash and is no dot or two; a place is the list of the names that lead to it, the last
one first.
-/

/-- A text that can name an object. -/
def ProperName (cs : List Char) : Prop := cs ≠ [] ∧ cs ≠ ['.'] ∧ cs ≠ ['.', '.'] ∧ '/' ∉ cs

instance : DecidablePred ProperName := fun _ => inferInstanceAs (Decidable (_ ∧ _ ∧ _ ∧ _))

/-- The name of an object.  A name that is not UTF-8 has for its text what `to_string_lossy` makes of
it, and then `raw` tells it from others of that text and has its length in bytes. -/
structure Name where
  text : List Char
  proper : ProperName text
  raw : Option (ℕ × ℕ)
  deriving DecidableEq

namespace Name

/-- The name with this text. -/
def ofText (cs : List Char) (h : ProperName cs) : Name := ⟨cs, h, none⟩

/-- The bytes that a name takes. -/
def bytes (n : Name) : ℕ :=
  match n.raw with
  | none => (String.ofList n.text).utf8ByteSize
  | some (_, length) => length

end Name

/-- A place on the disk: the names from the innermost to the outermost. -/
abbrev Place := List Name

namespace Place

/-- The absolute path, as `to_string_lossy` has it. -/
def text (loc : Place) : String :=
  String.ofList ('/' :: List.intercalate ['/'] (loc.reverse.map Name.text))

/-- The length of the absolute path. -/
def bytes (loc : Place) : ℕ := (loc.map fun n => n.bytes + 1).sum

/-- All names are UTF-8. -/
def Utf8 (loc : Place) : Prop := ∀ n ∈ loc, n.raw = none

/-- The place is under `/home/` or `/tmp/`. -/
def Inside (loc : Place) : Prop :=
  ∃ top n rest, loc.reverse = top :: n :: rest ∧ top.raw = none
    ∧ (top.text = "home".toList ∨ top.text = "tmp".toList)

end Place

/-- Other than links and directories. -/
inductive Leaf : Type
  | regular
  | special
  deriving DecidableEq

/-- The disk as a tree, with links. -/
abbrev Disk := Tree Name Leaf

/-! ## Resolution

The walk of the kernel and that of `realpath(3)`, which are one walk with different limits, and the
functions of the source on top of them.
-/

/-- `NAME_MAX`, `PATH_MAX` with the final zero, and `MAXSYMLINKS`. -/
def nameMax : ℕ := 255

/-- `PATH_MAX`, with the final zero. -/
def pathMax : ℕ := 4096

/-- `MAXSYMLINKS`. -/
def maxSymlinks : ℕ := 40

/-- What the kernel looks up: names that are not too long. -/
def nameFits : Place → Bool
  | [] => true
  | n :: _ => decide (n.bytes ≤ nameMax)

/-- What `realpath(3)` looks up: by its absolute path. -/
def pathFits (loc : Place) : Bool := nameFits loc && decide (Place.bytes loc < pathMax)

/-- A part of a path: a name, the parent, or nothing. -/
def toSeg (cs : List Char) : Seg Name :=
  if h : ProperName cs then Seg.name (Name.ofText cs h)
  else if cs = ['.', '.'] then Seg.up else Seg.here

/-- A path in parts. -/
def segments (path : String) : List (Seg Name) := (splitChar '/' path.toList).map toSeg

namespace Disk

variable (t : Disk)

/-- The kernel's resolution of a path, the last component included. -/
def resolve (path : String) : Reached Name :=
  if path = "" ∨ pathMax ≤ path.utf8ByteSize then Reached.fails
  else t.walk nameFits maxSymlinks [] (segments path)

/-- The place that `realpath(3)` finds. -/
def canonicalPlace (path : String) : Option Place :=
  if path = "" then none
  else match t.walk pathFits maxSymlinks [] (segments path) with
    | Reached.found loc => some loc
    | _ => none

/-- `std::fs::canonicalize`, and then `to_string_lossy`. -/
def canonicalize (path : String) : Option String := (t.canonicalPlace path).map Place.text

/-- `Path::exists`. -/
def pathExists (path : String) : Bool :=
  match t.resolve path with
  | Reached.found _ => true
  | _ => false

/-- `Path::is_file`. -/
def isFile (path : String) : Bool :=
  match t.resolve path with
  | Reached.found loc => decide (t.entry loc = some (Entry.leaf Leaf.regular))
  | _ => false

/-- `LuksEnrollService::realpath`. -/
def realpath (path : String) : String :=
  match t.canonicalize path with
  | some p => p
  | none =>
      match pathParent path, pathFileName path with
      | some parent, some name =>
          match t.canonicalize parent with
          | some rp => pathJoin rp name
          | none => path
      | _, _ => path

end Disk

/-! ## The method

The disk during a request, with a record of the places that its commands touch.
-/

/-- The disk, and the places at which something was created, truncated, formatted or handed over, or
was tried to be. -/
structure Site where
  disk : Disk
  touched : List Place

/-- What the environment settles: the answer of a call, where the disk does not, and the text of a
refusal. -/
structure Circumstance where
  answer : (c : Cmd) → Reply c
  text : String

/-- The file that a command writes to, or whose owner it changes. -/
def Cmd.touches : Cmd → Option String
  | Cmd.addByKey device _ _ => some device
  | Cmd.tokenJsonSet device _ => some device
  | Cmd.keyslotDestroy device _ => some device
  | Cmd.format device _ => some device
  | Cmd.chown path _ _ => some path
  | Cmd.writeAll path _ _ => some path
  | Cmd.wipefs device => some device
  | Cmd.gptZapAndPartition device => some device
  | _ => none

namespace Site

/-- The object at the end of a path, if there is one, is touched. -/
def touch (s : Site) : Option String → Site
  | none => s
  | some path =>
      match s.disk.resolve path with
      | Reached.found loc => { s with touched := loc :: s.touched }
      | _ => s

/-- `File::create`: follows links to the end; a file that is there is truncated. -/
def createFile (s : Site) (o : Circumstance) (path : String) (r : Except String Unit) :
    Except String Unit × Site :=
  match s.disk.resolve path with
  | Reached.missing loc =>
      (r, if r = Except.ok () then ⟨s.disk.graft loc Leaf.regular, loc :: s.touched⟩ else s)
  | Reached.found loc =>
      if s.disk.entry loc = some Entry.directory then (Except.error o.text, s)
      else (r, if r = Except.ok () then { s with touched := loc :: s.touched } else s)
  | Reached.fails => (Except.error o.text, s)

/-- The answer to a command of an operation. -/
def exec : Handler Cmd Reply Circumstance Site
  | Cmd.pathExists path, _, s => (s.disk.pathExists path, s)
  | Cmd.isFile path, _, s => (s.disk.isFile path, s)
  | Cmd.canonicalize path, _, s => (s.disk.canonicalize path, s)
  | Cmd.createFile path, o, s => s.createFile o path (o.answer (Cmd.createFile path))
  | c, o, s => (o.answer c, s.touch c.touches)

end Site

/-- The answer to a command of the gate: the disk settles how a path resolves. -/
def Disk.gateExec (t : Disk) : Handler GateCmd GateReply ((c : GateCmd) → GateReply c) Unit
  | GateCmd.canonicalize path, _, s => (t.canonicalize path, s)
  | c, o, s => (o c, s)

/-- The end of the gating of `CreateEncryptedImage`, once the path is resolved. -/
def admitted (sender passphrase realPath : String) : GateOp (String × Option ℕ) := do
  checkLens [realPath, passphrase]
  let uid ← pose (GateCmd.callerUid sender)
  return (realPath, uid)

/-- The handler of `CreateEncryptedImage` up to its body: the resolved path, and the caller's user
id. -/
def admitCreate (sender path passphrase : String) : GateOp (String × Option ℕ) := do
  gate sender AuthKind.manage (some path) true
  let realPath ← LuksEnroll.realpath path
  admitted sender passphrase realPath

/-- The surroundings of a request: the answers to the gate, the group of each user
(`User::from_uid`), and the answers to the operation. -/
structure Surroundings where
  gate : ℕ → (c : GateCmd) → GateReply c
  gid : ℕ → Option ℕ
  op : ℕ → Circumstance

/-- `create_encrypted_image`. -/
def Disk.createEncryptedImage (t : Disk) (sender path : String) (sizeMb : ℤ) (passphrase : String)
    (env : Surroundings) : Except SvcError (Bool × ℤ × String) × Site :=
  match ((admitCreate sender path passphrase).run t.gateExec env.gate ()).1 with
  | Except.error e => (Except.error e, ⟨t, []⟩)
  | Except.ok (realPath, uid) =>
      match uid.bind fun uid => (env.gid uid).map fun gid => (uid, gid) with
      | none => (Except.ok (false, -1, "Operation failed"), ⟨t, []⟩)
      | some owner =>
          let r := (opCreateEncryptedImage realPath sizeMb passphrase (some owner)).run Site.exec
            env.op ⟨t, []⟩
          (r.1.mapError SvcError.failed, r.2)

/-! ## Texts

A place has a text and a text has parts.  The text of a place leads back to it.
-/

/-- What is left after trimming begins with a part that is not empty. -/
lemma trimBack_cons {absolute : Bool} {segs rest : List (List Char)} {seg : List Char}
    (h : trimBack absolute segs = seg :: rest) : seg ≠ [] ∧ seg ∈ segs := by
  induction segs with
  | nil => simp [trimBack] at h
  | cons s segs ih =>
      rw [trimBack] at h
      split_ifs at h with hskip
      · exact ⟨(ih h).1, List.mem_cons_of_mem _ (ih h).2⟩
      · obtain ⟨rfl, -⟩ := List.cons.inj h
        exact ⟨fun hnil => hskip (Or.inl hnil), List.mem_cons_self ..⟩

lemma pathFileName_proper {path name : String} (h : pathFileName path = some name) :
    ProperName name.toList := by
  have hcomponents : ∀ segs cs, (∃ absolute, components segs = (absolute, cs)) →
      ∀ seg rest, cs = seg :: rest → seg ≠ [] ∧ '/' ∉ seg := by
    rintro segs cs ⟨absolute, hcs⟩ seg rest rfl
    unfold components at hcs
    split at hcs
    · obtain ⟨hne, hmem⟩ := trimBack_cons (Prod.mk.inj hcs).2
      exact ⟨hne, notMem_of_mem_splitChar (List.mem_reverse.mp hmem)⟩
    · obtain ⟨hne, hmem⟩ := trimBack_cons (Prod.mk.inj hcs).2
      exact ⟨hne, notMem_of_mem_splitChar (List.mem_reverse.mp hmem)⟩
  rw [pathFileName] at h
  split at h
  · simp at h
  · rename_i absolute seg segs hpath
    obtain ⟨hne, hslash⟩ := hcomponents _ _ ⟨absolute, hpath⟩ seg segs rfl
    split_ifs at h with hdots
    obtain rfl := Option.some.inj h
    rw [not_or] at hdots
    simpa [ProperName, hdots.1, hdots.2, hne] using hslash

lemma toSeg_text {n : Name} (hn : n.raw = none) : toSeg n.text = Seg.name n := by
  obtain ⟨text, proper, raw⟩ := n
  obtain rfl : raw = none := hn
  rw [toSeg, dif_pos proper, Name.ofText]

namespace Place

variable {loc : Place}

/-- The texts of the names, from the outermost. -/
lemma slash_notMem (loc : Place) : ∀ seg ∈ loc.reverse.map Name.text, '/' ∉ seg := by
  intro seg hseg
  obtain ⟨n, -, rfl⟩ := List.mem_map.mp hseg
  exact n.proper.2.2.2

lemma segments_text (hloc : loc.Utf8) (hne : loc ≠ []) :
    segments loc.text = Seg.here :: Tree.path loc := by
  have hsegs : loc.reverse.map Name.text ≠ [] := by simpa using hne
  have hsplit := splitChar_intercalate hsegs (slash_notMem loc)
  have hmap : (loc.reverse.map Name.text).map toSeg = loc.reverse.map Seg.name := by
    rw [List.map_map]
    exact List.map_congr_left fun n hn => toSeg_text (hloc n (List.mem_reverse.mp hn))
  rw [segments, text, String.toList_ofList, splitChar, if_pos rfl, hsplit, List.map_cons, hmap]
  rfl

/-- A path of segments starts with one of them and a slash. -/
lemma isPrefixOf_intercalate {top : List Char} (htop : '/' ∉ top) {segs : List (List Char)}
    (hsegs : ∀ seg ∈ segs, '/' ∉ seg) :
    ('/' :: (top ++ ['/'])).isPrefixOf ('/' :: List.intercalate ['/'] segs) = true
      ↔ ∃ seg rest, segs = top :: seg :: rest := by
  rw [List.isPrefixOf_iff_prefix, List.cons_prefix_cons]
  constructor
  · rintro ⟨-, rest, hrest⟩
    rw [List.append_assoc, List.singleton_append] at hrest
    have hne : segs ≠ [] := by
      rintro rfl
      simp at hrest
    have hsplit := splitChar_intercalate hne hsegs
    rw [← hrest, splitChar_append htop] at hsplit
    cases hcut : splitChar '/' rest with
    | nil => exact absurd hcut (splitChar_ne_nil _ _)
    | cons seg segs' => exact ⟨seg, segs', by rw [← hsplit, hcut]⟩
  · rintro ⟨seg, rest, rfl⟩
    refine ⟨rfl, List.intercalate ['/'] (seg :: rest), ?_⟩
    rw [List.intercalate_cons_cons]

/-- The names of a place, where their texts are known up to the second. -/
lemma map_text_eq_cons {names : List Name} {top : List Char} :
    (∃ seg rest, names.map Name.text = top :: seg :: rest)
      ↔ ∃ t n rest, names = t :: n :: rest ∧ t.text = top := by
  constructor
  · rintro ⟨seg, rest, h⟩
    cases names with
    | nil => simp at h
    | cons t names =>
        cases names with
        | nil => simp at h
        | cons n names => exact ⟨t, n, names, rfl, (List.cons.inj h).1⟩
  · rintro ⟨t, n, rest, rfl, rfl⟩
    exact ⟨n.text, rest.map Name.text, rfl⟩

lemma underHomeOrTmp_text (hloc : loc.Utf8) : underHomeOrTmp loc.text = true ↔ loc.Inside := by
  have hlist : loc.text.toList = '/' :: List.intercalate ['/'] (loc.reverse.map Name.text) :=
    String.toList_ofList
  have hhome := (isPrefixOf_intercalate (by decide : '/' ∉ "home".toList) (slash_notMem loc)).trans
    map_text_eq_cons
  have htmp := (isPrefixOf_intercalate (by decide : '/' ∉ "tmp".toList) (slash_notMem loc)).trans
    map_text_eq_cons
  rw [underHomeOrTmp, Bool.or_eq_true, hlist]
  refine (or_congr hhome htmp).trans ⟨?_, ?_⟩
  · have htop : ∀ {t n rest}, loc.reverse = t :: n :: rest → t.raw = none := by
      intro t n rest h
      exact hloc t (List.mem_reverse.mp (h ▸ List.mem_cons_self ..))
    rintro (⟨t, n, rest, h, ht⟩ | ⟨t, n, rest, h, ht⟩)
    · exact ⟨t, n, rest, h, htop h, Or.inl ht⟩
    · exact ⟨t, n, rest, h, htop h, Or.inr ht⟩
  · rintro ⟨t, n, rest, h, -, ht⟩
    exact ht.imp (fun ht => ⟨t, n, rest, h, ht⟩) fun ht => ⟨t, n, rest, h, ht⟩

/-- A path of several parts ends in a slash and the last of them. -/
lemma intercalate_concat {segs : List (List Char)} (hne : segs ≠ []) (seg : List Char) :
    List.intercalate ['/'] (segs ++ [seg]) = List.intercalate ['/'] segs ++ '/' :: seg := by
  induction segs with
  | nil => exact absurd rfl hne
  | cons s segs ih =>
      cases segs with
      | nil => simp [List.intercalate_cons_cons]
      | cons s' segs =>
          have hrest := ih (by simp)
          simp only [List.cons_append, List.intercalate_cons_cons] at hrest ⊢
          rw [hrest, List.append_assoc, List.append_assoc, List.append_assoc]

lemma toList_text_singleton (n : Name) : (Place.text [n]).toList = '/' :: n.text := by
  simp [text]

lemma toList_text_cons (n : Name) {dir : Place} (hdir : dir ≠ []) :
    (Place.text (n :: dir)).toList = dir.text.toList ++ '/' :: n.text := by
  have hsegs : dir.reverse.map Name.text ≠ [] := by simpa using hdir
  rw [text, text, String.toList_ofList, String.toList_ofList, List.reverse_cons, List.map_append,
    List.map_singleton, intercalate_concat hsegs, List.cons_append]

/-- A place other than the root has a path that does not end in a slash. -/
lemma getLast_text (n : Name) (dir : Place) : (Place.text (n :: dir)).toList.getLast? ≠ some '/' := by
  obtain ⟨front, hfront⟩ : ∃ front, (Place.text (n :: dir)).toList = front ++ n.text := by
    cases dir with
    | nil => exact ⟨['/'], toList_text_singleton n⟩
    | cons m dir =>
        refine ⟨(Place.text (m :: dir)).toList ++ ['/'], ?_⟩
        rw [toList_text_cons n (List.cons_ne_nil m dir), List.append_assoc, List.singleton_append]
  rw [hfront, List.getLast?_append_of_ne_nil _ n.proper.1]
  exact fun hslash => n.proper.2.2.2 (List.mem_of_getLast? hslash)

lemma pathJoin_text (dir : Place) {name : String} (h : ProperName name.toList) :
    pathJoin dir.text name = Place.text (Name.ofText name.toList h :: dir) := by
  apply String.toList_injective
  cases dir with
  | nil =>
      have hroot : Place.text [] = "/" := rfl
      rw [pathJoin, hroot, if_pos (Or.inr (by decide)), String.toList_append,
        toList_text_singleton]
      rfl
  | cons n dir =>
      have hslash : ¬ (Place.text (n :: dir) = ""
          ∨ (Place.text (n :: dir)).toList.getLast? = some '/') :=
        not_or.mpr ⟨by simp [text], getLast_text n dir⟩
      rw [pathJoin, if_neg hslash, String.toList_append, String.toList_append, List.append_assoc,
        toList_text_cons _ (List.cons_ne_nil n dir)]
      rfl

end Place

/-! ## What the operation touches

Behind its guard the operation touches one place, which is where the path leads, or nothing.
-/

section

variable {t : Disk} {path : String}

lemma resolve_ends (t : Disk) (path : String) : t.Ends (t.resolve path) := by
  rw [Disk.resolve]
  split_ifs
  · trivial
  · exact t.walk_ends nameFits maxSymlinks t.root _

/-- What has been created at the end of a path is found there. -/
lemma resolve_graft {loc : Place} (h : t.resolve path = Reached.missing loc) (k : Leaf) :
    Disk.resolve (t.graft loc k) path = Reached.found loc := by
  have hmissing : t.Ends (Reached.missing loc) := h ▸ resolve_ends t path
  rw [Disk.resolve] at h ⊢
  split_ifs at h ⊢
  exact Tree.walk_graft nameFits maxSymlinks hmissing h

/-- Nothing has been done, or a file has been created where the path ends, and nothing but this file
has been touched. -/
def Placed (t : Disk) (path : String) (s : Site) : Prop :=
  (s.disk = t ∧ s.touched = []) ∨ ∃ loc, t.resolve path = Reached.missing loc
    ∧ s.disk = t.graft loc Leaf.regular ∧ ∀ l ∈ s.touched, l = loc

/-- Touching what stands at the end of the path, where nothing stood. -/
lemma placed_touch (hfree : t.pathExists path = false) {s : Site} (hs : Placed t path s) :
    Placed t path (s.touch (some path)) := by
  rcases hs with ⟨rfl, hnone⟩ | ⟨loc, hloc, hdisk, honly⟩
  · cases hresolve : s.disk.resolve path with
    | found l => simp [Disk.pathExists, hresolve] at hfree
    | missing l =>
        simp only [Site.touch, hresolve]
        exact Or.inl ⟨rfl, hnone⟩
    | fails =>
        simp only [Site.touch, hresolve]
        exact Or.inl ⟨rfl, hnone⟩
  · have hfound : s.disk.resolve path = Reached.found loc := hdisk ▸ resolve_graft hloc Leaf.regular
    refine Or.inr ⟨loc, hloc, ?_⟩
    simp only [Site.touch, hfound]
    exact ⟨hdisk, by simpa using honly⟩

/-- Creating makes the file where the path leads, and nowhere else. -/
lemma placed_createFile (hfree : t.pathExists path = false) {s : Site} (hs : Placed t path s)
    (o : Circumstance) (r : Except String Unit) : Placed t path (s.createFile o path r).2 := by
  rcases hs with ⟨rfl, hnone⟩ | ⟨loc, hloc, hdisk, honly⟩
  · cases hresolve : s.disk.resolve path with
    | found l => simp [Disk.pathExists, hresolve] at hfree
    | missing l =>
        simp only [Site.createFile, hresolve]
        split_ifs
        · exact Or.inr ⟨l, hresolve, rfl, by simp [hnone]⟩
        · exact Or.inl ⟨rfl, hnone⟩
    | fails =>
        simp only [Site.createFile, hresolve]
        exact Or.inl ⟨rfl, hnone⟩
  · have hfound : s.disk.resolve path = Reached.found loc := hdisk ▸ resolve_graft hloc Leaf.regular
    refine Or.inr ⟨loc, hloc, ?_⟩
    simp only [Site.createFile, hfound]
    split_ifs
    · exact ⟨hdisk, honly⟩
    · exact ⟨hdisk, by simpa using honly⟩
    · exact ⟨hdisk, honly⟩

lemma placed_exec (hfree : t.pathExists path = false) {c : Cmd} (hc : c.FormatsOn [path] True)
    (o : Circumstance) {s : Site} (hs : Placed t path s) : Placed t path (Site.exec c o s).2 := by
  cases c with
  | createFile d =>
      obtain rfl := List.mem_singleton.mp hc
      exact placed_createFile hfree hs o _
  | writeAll d offset bytes =>
      obtain rfl := List.mem_singleton.mp hc
      exact placed_touch hfree hs
  | format d vk =>
      obtain rfl := List.mem_singleton.mp hc
      exact placed_touch hfree hs
  | addByKey d vk pw =>
      obtain rfl := List.mem_singleton.mp hc
      exact placed_touch hfree hs
  | chown d uid gid =>
      obtain rfl := List.mem_singleton.mp hc
      exact placed_touch hfree hs
  | wipefs d =>
      obtain rfl := List.mem_singleton.mp hc
      exact placed_touch hfree hs
  | gptZapAndPartition d =>
      obtain rfl := List.mem_singleton.mp hc
      exact placed_touch hfree hs
  | tokenJsonSet d input => exact hc.elim
  | keyslotDestroy d slot => exact hc.elim
  | _ => exact hs

/-- The operation touches only what is missing at the end of a path with an allowed text. -/
lemma opCreateEncryptedImage_touched (t : Disk) (path : String) (sizeMb : ℤ) (passphrase : String)
    (owner : Option (ℕ × ℕ)) :
    (opCreateEncryptedImage path sizeMb passphrase owner).wp Site.exec (fun _ => True)
      (fun _ s => ∀ loc ∈ s.touched, underHomeOrTmp path = true
        ∧ t.resolve path = Reached.missing loc) ⟨t, []⟩ := by
  have hnothing : ∀ loc ∈ ([] : List Place), underHomeOrTmp path = true
      ∧ t.resolve path = Reached.missing loc := by simp
  intro o _
  show Prog.wp _ _ _ (if t.pathExists path = true then _ else _ : Op (Bool × ℤ × String)) _
  split_ifs with hexists hunder
  · intro o' _
    show Prog.wp _ _ _ (if t.isFile path = true then _ else _ : Op (Bool × ℤ × String)) _
    split_ifs
    · exact hnothing
    · exact hnothing
  · have hfree : t.pathExists path = false := by simpa using hexists
    have hkeeps : (runCreate (createContainer path sizeMb passphrase owner)).Keeps Site.exec
        (fun _ => True) (Placed t path) :=
      Prog.Keeps.of_allCalls (fun c o s hc _ hs => placed_exec hfree hc o hs)
        (runCreate_allCalls (createContainer_formats sizeMb owner fun _ => trivial))
    refine Prog.wp_mono (fun _ s hs => ?_) (hkeeps ⟨t, []⟩ (Or.inl ⟨rfl, rfl⟩))
    rcases hs with ⟨-, hnone⟩ | ⟨loc, hloc, -, honly⟩
    · simp [hnone]
    · intro l hl
      rw [honly l hl]
      exact ⟨hunder, hloc⟩
  · exact hnothing

/-- A file can be created, but nothing that is done with it afterwards succeeds. -/
def cutShort : Circumstance where
  answer
    | Cmd.createFile _ => Except.ok ()
    | c => (answer none c { fault := some "EIO" }
        (World.start (FileSystem.ofList [] []) fun _ => none)).1
  text := ""

lemma opCreateEncryptedImage_touches {loc : Place} (hunder : underHomeOrTmp path = true)
    (hmissing : t.resolve path = Reached.missing loc) (passphrase : String)
    (owner : Option (ℕ × ℕ)) :
    loc ∈ ((opCreateEncryptedImage path 1 passphrase owner).run Site.exec (fun _ => cutShort)
      ⟨t, []⟩).2.touched := by
  have hexists : t.pathExists path = false := by simp [Disk.pathExists, hmissing]
  show loc ∈ (Prog.run Site.exec (if t.pathExists path = true then _ else _ :
    Op (Bool × ℤ × String)) _ _).2.touched
  rw [if_neg (by simp [hexists]), if_pos hunder]
  have hcreate : Site.exec (Cmd.createFile path) cutShort ⟨t, []⟩
      = (Except.ok (), ⟨t.graft loc Leaf.regular, [loc]⟩) := by
    simp [Site.exec, Site.createFile, hmissing, cutShort]
  -- the file is there by then, and seeking in it fails
  have hbody : (createContainer path 1 passphrase owner).run Site.exec (fun _ => cutShort) ⟨t, []⟩
      = (Except.error "EIO", ⟨t.graft loc Leaf.regular, [loc]⟩) := by
    refine Prog.run_bind_error ?_
    show Prog.run Site.exec (Prog.bind (orFail (Site.exec (Cmd.createFile path) cutShort
      ⟨t, []⟩).1 id) _) _ (Site.exec (Cmd.createFile path) cutShort ⟨t, []⟩).2 = _
    rw [hcreate]
    rfl
  have hattempt := Prog.run_attempt (δ := String) Site.exec
    (createContainer path 1 passphrase owner) (fun _ => cutShort) ⟨t, []⟩
  rw [hbody] at hattempt
  show loc ∈ (Prog.run Site.exec (Prog.bind _ _) (fun _ => cutShort) ⟨t, []⟩).2.touched
  rw [Prog.run_bind_ok hattempt]
  exact List.mem_singleton_self loc

end

/-! ## What the gate hands on

The gate resolves the path and hands on what it resolved to.
-/

section

variable {t : Disk} {path : String}

/-- The gate's resolution of a path, whatever else it is told. -/
lemma run_realpath (t : Disk) (path : String) (os : ℕ → (c : GateCmd) → GateReply c) :
    (realpath path).run t.gateExec os () = (Except.ok (t.realpath path), ()) := by
  have hask : ∀ p os, (pose (GateCmd.canonicalize p)).run t.gateExec os ()
      = (Except.ok (t.canonicalize p), ()) := fun _ _ => rfl
  refine (Prog.run_bind_ok (hask path os)).trans ?_
  rw [Disk.realpath]
  cases t.canonicalize path with
  | some p => rfl
  | none =>
      cases pathParent path with
      | none => rfl
      | some parent =>
          cases pathFileName path with
          | none => rfl
          | some name =>
              refine (Prog.run_bind_ok (hask parent _)).trans ?_
              simp only
              cases t.canonicalize parent with
              | none => rfl
              | some rp => rfl

/-- Past the gate, the lengths are checked and the owner is asked for. -/
lemma run_admitted (t : Disk) (sender passphrase real : String)
    (os : ℕ → (c : GateCmd) → GateReply c) :
    (admitted sender passphrase real).run t.gateExec os ()
      = (if [real, passphrase].any fun a => decide (maxStringLen < a.utf8ByteSize) then
          Except.error (SvcError.invalidArgs "Parameter exceeds maximum length")
        else Except.ok (real, os 0 (GateCmd.callerUid sender)), ()) := by
  rw [admitted, checkLens]
  split_ifs
  · rfl
  · rfl

/-- A request that passes the gate resolves its path. -/
lemma run_admitCreate {sender passphrase : String} {os : ℕ → (c : GateCmd) → GateReply c}
    (hgate : ((gate sender AuthKind.manage (some path) true).run t.gateExec os ()).1
      = Except.ok ()) :
    ∃ n, (admitCreate sender path passphrase).run t.gateExec os ()
      = (admitted sender passphrase (t.realpath path)).run t.gateExec (Prog.after n os) () := by
  have hrun : (gate sender AuthKind.manage (some path) true).run t.gateExec os ()
      = (Except.ok (), ()) := Prod.ext hgate rfl
  let n := (gate sender AuthKind.manage (some path) true).steps t.gateExec os ()
  refine ⟨(realpath path).steps t.gateExec (Prog.after n os) () + n,
    (Prog.run_bind_ok hrun).trans ?_⟩
  rw [Prog.after_add]
  exact Prog.run_bind_ok (run_realpath t path _)

lemma admitCreate_path {sender passphrase real : String} {uid : Option ℕ}
    {os : ℕ → (c : GateCmd) → GateReply c}
    (h : ((admitCreate sender path passphrase).run t.gateExec os ()).1 = Except.ok (real, uid)) :
    real = t.realpath path := by
  cases hgate : ((gate sender AuthKind.manage (some path) true).run t.gateExec os ()).1 with
  | error e =>
      have hrun : (admitCreate sender path passphrase).run t.gateExec os () = (Except.error e, ()) :=
        Prog.run_bind_error (Prod.ext hgate rfl)
      simp [hrun] at h
  | ok u =>
      obtain ⟨n, hrun⟩ := @run_admitCreate t path sender passphrase os hgate
      rw [hrun, run_admitted] at h
      simp only at h
      split_ifs at h
      exact (Prod.mk.inj (Except.ok.inj h)).1.symm

/-- Everybody is let in. -/
def waveThrough : (c : GateCmd) → GateReply c
  | GateCmd.authCached _ _ => true
  | GateCmd.callerUid _ => some 1000
  | GateCmd.canonicalize _ => none
  | GateCmd.metadata _ => none
  | GateCmd.checkPolkit _ _ => true
  | GateCmd.recordAuth _ _ _ => ()
  | GateCmd.resetIdle => ()
  | GateCmd.enter => ()

/-- A caller who has been let in before gets there, unless the path is longer than any path may be. -/
lemma run_admitCreate_waved (sender : String) (hlen : (t.realpath path).utf8ByteSize < pathMax) :
    ((admitCreate sender path "").run t.gateExec (fun _ => waveThrough) ()).1
      = Except.ok (t.realpath path, some 1000) := by
  have hgate : ((gate sender AuthKind.manage (some path) true).run t.gateExec
      (fun _ => waveThrough) ()).1 = Except.ok () := rfl
  obtain ⟨n, hrun⟩ := @run_admitCreate t path sender "" _ hgate
  have hshort : ¬ maxStringLen < (t.realpath path).utf8ByteSize := by
    have hmax : pathMax ≤ maxStringLen := by decide
    omega
  have hempty : ¬ maxStringLen < "".utf8ByteSize := by decide
  rw [hrun, run_admitted]
  simp only [List.any_cons, List.any_nil, hshort, hempty, decide_false, Bool.or_false,
    Bool.false_eq_true, if_false]
  rfl

end

/-! ## The way out

When a path leads out: the text that is checked is allowed and the place it leads to is not.  This
is a condition on the disk before the request.
-/

namespace Disk

variable (t : Disk) (path : String)

/-- As far as the path resolves: the place itself, or its file name in the directory. -/
def nearest : Option Place :=
  match t.canonicalPlace path with
  | some loc => some loc
  | none =>
      match pathParent path, pathFileName path with
      | some parent, some name =>
          match t.canonicalPlace parent with
          | some dir =>
              if h : ProperName name.toList then some (Name.ofText name.toList h :: dir) else none
          | none => none
      | _, _ => none

/-- A text that is allowed, and that ends at a missing file outside. -/
def LeadsOut (text : String) : Prop :=
  underHomeOrTmp text = true ∧ ∃ loc, t.resolve text = Reached.missing loc ∧ ¬ Place.Inside loc

/-- A symbolic link stands here. -/
def LinkAt (loc : Place) : Prop := ∃ absolute target, t.entry loc = some (Entry.link absolute target)

/-- Nothing leads out: neither the place that was found, where it is a symbolic link or has a name
that is not UTF-8 and so another text, nor the path itself, where nothing was found. -/
structure NoWayOut : Prop where
  found : ∀ loc, t.nearest path = some loc → t.LinkAt loc ∨ ¬ Place.Utf8 loc →
    ¬ t.LeadsOut loc.text
  unfound : t.nearest path = none → ¬ t.LeadsOut path

end Disk

section

variable {t : Disk} {path : String}

lemma realpath_of_nearest : t.realpath path = (t.nearest path).elim path Place.text := by
  rw [Disk.realpath, Disk.nearest, Disk.canonicalize]
  cases t.canonicalPlace path with
  | some loc => rfl
  | none =>
      cases pathParent path with
      | none => rfl
      | some parent =>
          cases hname : pathFileName path with
          | none => rfl
          | some name =>
              have hproper := pathFileName_proper hname
              simp only [Disk.canonicalize, Option.map_none]
              cases t.canonicalPlace parent with
              | none => rfl
              | some dir =>
                  simp only [Option.map_some, dif_pos hproper, Option.elim_some]
                  exact Place.pathJoin_text dir hproper

/-- A place that was found: there is no link there. -/
lemma canonicalPlace_ends {loc : Place} (h : t.canonicalPlace path = some loc) :
    t.Ends (Reached.found loc) := by
  rw [Disk.canonicalPlace] at h
  split_ifs at h
  have hends := t.walk_ends pathFits maxSymlinks t.root (segments path)
  cases hwalk : t.walk pathFits maxSymlinks [] (segments path) with
  | found l =>
      rw [hwalk] at h hends
      obtain rfl := Option.some.inj h
      exact hends
  | missing l => simp [hwalk] at h
  | fails => simp [hwalk] at h

/-- What a path resolves to lies in a place that is there. -/
lemma nearest_cons {n : Name} {dir : Place} (h : t.nearest path = some (n :: dir)) :
    t.Ends (Reached.found dir) := by
  rw [Disk.nearest] at h
  cases hplace : t.canonicalPlace path with
  | some loc =>
      rw [hplace] at h
      obtain rfl := Option.some.inj h
      refine Or.inl (t.parent n dir ?_)
      rcases canonicalPlace_ends hplace with hdir | ⟨k, hk⟩
      · simp [hdir]
      · simp [hk]
  | none =>
      rw [hplace] at h
      simp only at h
      split at h
      · split at h
        · rename_i dir' hdir
          split_ifs at h
          obtain ⟨-, rfl⟩ := List.cons.inj (Option.some.inj h)
          exact canonicalPlace_ends hdir
        · simp at h
      · simp at h

/-- The path of a place is walked name by name. -/
lemma resolve_text {loc l : Place} (hloc : loc.Utf8) (h : t.resolve loc.text = Reached.missing l) :
    t.walk nameFits maxSymlinks [] (Tree.path loc) = Reached.missing l := by
  rw [Disk.resolve] at h
  split_ifs at h
  cases loc with
  | nil => exact h
  | cons n dir =>
      rw [Place.segments_text hloc (List.cons_ne_nil n dir)] at h
      exact h

/-- A place that was found, by its own text and not through a link, is inside if its text is. -/
lemma not_leadsOut_of_plain {loc : Place} (hloc : t.nearest path = some loc)
    (hlink : ¬ t.LinkAt loc) (hutf8 : loc.Utf8) : ¬ t.LeadsOut loc.text := by
  rintro ⟨hunder, l, hl, hout⟩
  have hwalk := resolve_text hutf8 hl
  cases loc with
  | nil => simp [Tree.path, Tree.walk_eq, Tree.walkWith] at hwalk
  | cons n dir =>
      obtain rfl := t.walk_path_missing nameFits maxSymlinks (nearest_cons hloc) hlink hwalk
      exact hout ((Place.underHomeOrTmp_text hutf8).mp hunder)

/-- Nothing leads out exactly when what was resolved does not. -/
lemma noWayOut_iff : t.NoWayOut path ↔ ¬ t.LeadsOut (t.realpath path) := by
  rw [realpath_of_nearest]
  cases hloc : t.nearest path with
  | none => exact ⟨fun h => h.unfound hloc, fun h => ⟨fun _ h' => by simp [hloc] at h', fun _ => h⟩⟩
  | some loc =>
      constructor
      · intro h
        by_cases hplain : t.LinkAt loc ∨ ¬ loc.Utf8
        · exact h.found loc hloc hplain
        · rw [not_or, not_not] at hplain
          exact not_leadsOut_of_plain hloc hplain.1 hplain.2
      · intro h
        refine ⟨fun l hl _ => ?_, fun hnone => by simp [hloc] at hnone⟩
        rw [hloc] at hl
        obtain rfl := Option.some.inj hl
        exact h

end

/-- What a request touches is missing at the end of the resolved path, and the text of that is
allowed. -/
lemma createEncryptedImage_touched {t : Disk} {sender path passphrase : String} {sizeMb : ℤ}
    {env : Surroundings} {loc : Place}
    (h : loc ∈ (t.createEncryptedImage sender path sizeMb passphrase env).2.touched) :
    underHomeOrTmp (t.realpath path) = true
      ∧ t.resolve (t.realpath path) = Reached.missing loc := by
  rw [Disk.createEncryptedImage] at h
  cases hlet : ((admitCreate sender path passphrase).run t.gateExec env.gate ()).1 with
  | error e => simp [hlet] at h
  | ok admitted =>
      obtain ⟨real, uid⟩ := admitted
      obtain rfl := admitCreate_path hlet
      rw [hlet] at h
      simp only at h
      cases hows : uid.bind fun uid => (env.gid uid).map fun gid => (uid, gid) with
      | none => simp [hows] at h
      | some owner =>
          rw [hows] at h
          exact Prog.wp_sound (opCreateEncryptedImage_touched t (t.realpath path) sizeMb passphrase
            (some owner)) env.op (fun _ => trivial) loc h

/-- A caller who is let in, with a disk that is full once the file has been created. -/
def fullDisk : Surroundings where
  gate := fun _ => waveThrough
  gid := fun _ => some 1000
  op := fun _ => cutShort

/-- A create that leads to a missing place touches that place. -/
lemma createEncryptedImage_touches {t : Disk} {path : String} {loc : Place} (sender : String)
    (hunder : underHomeOrTmp (t.realpath path) = true)
    (hmissing : t.resolve (t.realpath path) = Reached.missing loc) :
    loc ∈ (t.createEncryptedImage sender path 1 "" fullDisk).2.touched := by
  have hlen : (t.realpath path).utf8ByteSize < pathMax := by
    rw [Disk.resolve] at hmissing
    split_ifs at hmissing with hfits
    omega
  have hlet : ((admitCreate sender path "").run t.gateExec fullDisk.gate ()).1
      = Except.ok (t.realpath path, some 1000) := run_admitCreate_waved sender hlen
  rw [Disk.createEncryptedImage, hlet]
  exact opCreateEncryptedImage_touches hunder hmissing "" (some (1000, 1000))

/-- **Images stay under `/home` and `/tmp`.**  Whatever `CreateEncryptedImage` creates, truncates,
formats or hands over, for every caller and however the calls go, is under `/home/` or `/tmp/` and
was not there before, exactly for the paths that have no way out. -/
theorem created_inside_iff (t : Disk) (path : String) :
    (∀ (sender : String) (sizeMb : ℤ) (passphrase : String) (env : Surroundings),
      ∀ loc ∈ (t.createEncryptedImage sender path sizeMb passphrase env).2.touched,
        Place.Inside loc ∧ t.entry loc = none)
      ↔ t.NoWayOut path := by
  rw [noWayOut_iff]
  constructor
  · rintro hinside ⟨hunder, loc, hmissing, hout⟩
    have htouched := createEncryptedImage_touches ":1.7" hunder hmissing
    exact hout (hinside ":1.7" 1 "" fullDisk loc htouched).1
  · intro hout sender sizeMb passphrase env loc hloc
    obtain ⟨hunder, hmissing⟩ := createEncryptedImage_touched hloc
    have hends : t.Ends (Reached.missing loc) := hmissing ▸ resolve_ends t (t.realpath path)
    refine ⟨?_, hends.1⟩
    by_contra hin
    exact hout ⟨hunder, loc, hmissing, hin⟩

/-! ## A link that leads out

A link in a home directory that points to a missing file elsewhere.
-/

/-- A directory of homes. -/
def homeDir : Name := Name.ofText "home".toList (by decide)

/-- The directory of a user in it. -/
def userDir : Name := Name.ofText "u".toList (by decide)

/-- The directory of devices. -/
def devDir : Name := Name.ofText "dev".toList (by decide)

/-- The shared memory below it. -/
def shmDir : Name := Name.ofText "shm".toList (by decide)

/-- The name of an image. -/
def vaultImg : Name := Name.ofText "vault.img".toList (by decide)

/-- `/home/u/vault.img` is a symbolic link to `/dev/shm/vault.img`, and there is nothing. -/
def danglingLink : Disk where
  entry := fun loc =>
    if loc ∈ [[], [homeDir], [userDir, homeDir], [devDir], [shmDir, devDir]] then
      some Entry.directory
    else if loc = [vaultImg, userDir, homeDir] then
      some (Entry.link true (segments "/dev/shm/vault.img"))
    else none
  root := by simp
  parent := by
    intro n dir h
    split_ifs at h with hdir hlink
    · simp only [List.mem_cons, List.cons.injEq, List.not_mem_nil, or_false, reduceCtorEq,
        false_or] at hdir
      rcases hdir with ⟨-, rfl⟩ | ⟨-, rfl⟩ | ⟨-, rfl⟩ | ⟨-, rfl⟩ <;> simp
    · obtain ⟨-, rfl⟩ := List.cons.inj hlink
      simp
    · simp at h

/-- The answers of a machine on which everything goes well. -/
def wellBehaved : Circumstance where
  answer := fun c => (answer none c Oracle.quiet
    (World.start (FileSystem.ofList [("/home/u/vault.img", FileKind.regular, 0)] []) fun _ => none)).1
  text := ""

/-- **An image outside.**  The user asks for an image at the link, which is in their own directory:
the request succeeds, and the new file is in `/dev/shm`. -/
theorem image_outside :
    let created := danglingLink.createEncryptedImage ":1.7" "/home/u/vault.img" 16 ""
      ⟨fun _ => waveThrough, fun _ => some 1000, fun _ => wellBehaved⟩
    created.1.toOption = some (true, -1, "") ∧ [vaultImg, shmDir, devDir] ∈ created.2.touched
      ∧ ¬ Place.Inside [vaultImg, shmDir, devDir] := by
  refine ⟨by decide +kernel, by decide +kernel, ?_⟩
  rintro ⟨top, n, rest, h, -, htop⟩
  obtain ⟨rfl, -⟩ := List.cons.inj h
  revert htop
  decide

end LuksEnroll
