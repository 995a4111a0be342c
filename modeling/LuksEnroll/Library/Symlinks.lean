import Mathlib.Data.Nat.Notation
import Mathlib.Tactic.SplitIfs

/-!
# Path resolution

A tree of directories in which symbolic links stand, and the walk by which a path is resolved in it:
component by component, each link replaced by the components it holds, `..` taken from where the walk
has arrived.  A walk follows a bounded number of links.

Locations are lists of names, the innermost first; they contain no links and no `..`.  A walk ends at
an object, or at a name that is missing in a directory that is there, which is where an open that
creates would create, or nowhere.

`walk_path` says that a location is a path to itself, and `walk_graft` that whoever creates at the end
of a walk finds it there on the next one.
-/

namespace Library

/-- A component of a path. -/
inductive Seg (N : Type) : Type
  | here
  | up
  | name (n : N)
  deriving DecidableEq

/-- What stands at a location. -/
inductive Entry (N K : Type) : Type
  | directory
  | leaf (k : K)
  | link (absolute : Bool) (target : List (Seg N))
  deriving DecidableEq

/-- A tree: whatever stands somewhere stands in a directory. -/
structure Tree (N K : Type) where
  entry : List N → Option (Entry N K)
  root : entry [] = some Entry.directory
  parent : ∀ n dir, (entry (n :: dir)).isSome → entry dir = some Entry.directory

/-- Where a walk ends. -/
inductive Reached (N : Type) : Type
  | found (loc : List N)
  | missing (loc : List N)
  | fails
  deriving DecidableEq

namespace Tree

variable {N K : Type}

/-! ## Walks

A walk goes through a path part by part, from a place.  A link is followed by walking its target
first, and a walk follows a bounded number of them.
-/

section

variable (t : Tree N K) (fits : List N → Bool)

/-- A walk from a directory up to the first link, which `follow` is to go on with.  A location that
does not fit is not looked up. -/
def walkWith (follow : List N → List (Seg N) → Reached N) : List N → List (Seg N) → Reached N
  | dir, [] => Reached.found dir
  | dir, Seg.here :: rest => walkWith follow dir rest
  | dir, Seg.up :: rest => walkWith follow dir.tail rest
  | dir, Seg.name n :: rest =>
      if fits (n :: dir) then
        match t.entry (n :: dir) with
        | none => if rest.isEmpty then Reached.missing (n :: dir) else Reached.fails
        | some Entry.directory => walkWith follow (n :: dir) rest
        | some (Entry.leaf _) => if rest.isEmpty then Reached.found (n :: dir) else Reached.fails
        | some (Entry.link absolute target) => follow (if absolute then [] else dir) (target ++ rest)
      else Reached.fails

/-- A walk that follows at most so many links. -/
def walk : ℕ → List N → List (Seg N) → Reached N
  | 0 => walkWith t fits fun _ _ => Reached.fails
  | links + 1 => walkWith t fits (walk links)

/-- What a walk does at a link. -/
def follow : ℕ → List N → List (Seg N) → Reached N
  | 0 => fun _ _ => Reached.fails
  | links + 1 => walk t fits links

/-- A walk, unfolded once: what follows a link has one link less. -/
lemma walk_eq (links : ℕ) : t.walk fits links = t.walkWith fits (t.follow fits links) := by
  cases links <;> rfl

end

/-- The location as a path from the root. -/
def path (loc : List N) : List (Seg N) := loc.reverse.map Seg.name

/-- The path to a place in a directory ends with its name. -/
lemma path_cons (n : N) (loc : List N) : path (n :: loc) = path loc ++ [Seg.name n] := by
  simp [path]

/-- An object created at a location where there was none, in a directory. -/
def graft [DecidableEq N] [DecidableEq K] (t : Tree N K) (loc : List N) (k : K) : Tree N K :=
  if h : t.entry loc = none ∧ t.entry loc.tail = some Entry.directory then {
    entry := fun l => if l = loc then some (Entry.leaf k) else t.entry l
    root := by
      have hroot : [] ≠ loc := fun h' => by simp [← h', t.root] at h
      rw [if_neg hroot, t.root]
    parent := by
      intro n dir hsome
      split_ifs at hsome with hloc
      · subst hloc
        have hne : dir ≠ n :: dir := fun h' => by simpa using congrArg List.length h'
        rw [if_neg hne]
        exact h.2
      · have hdir := t.parent n dir hsome
        have hne : dir ≠ loc := fun h' => by simp [h', h.1] at hdir
        rw [if_neg hne, hdir] }
  else t

/-! ## Where walks end

A walk ends at an entry, at a name that is missing in a directory, or it fails.
-/

/-- A name in a directory is walked to if it fits, and not past what is no directory. -/
lemma walk_name (t : Tree N K) (fits : List N → Bool) (links : ℕ) {n : N} {dir : List N}
    {rest : List (Seg N)} (hentry : t.entry (n :: dir) = some Entry.directory)
    (hfits : fits (n :: dir) = true) :
    t.walk fits links dir (Seg.name n :: rest) = t.walk fits links (n :: dir) rest := by
  rw [walk_eq, walkWith, if_pos hfits, hentry]

/-- The path of a directory leads to the directory, unless it has a part that does not fit. -/
lemma walk_path (t : Tree N K) (fits : List N → Bool) (links : ℕ) {dir : List N}
    (hdir : t.entry dir = some Entry.directory) (rest : List (Seg N)) :
    t.walk fits links [] (path dir ++ rest) = t.walk fits links dir rest
      ∨ t.walk fits links [] (path dir ++ rest) = Reached.fails := by
  induction dir generalizing rest with
  | nil => exact Or.inl rfl
  | cons n dir ih =>
      have hparent := t.parent n dir (by simp [hdir])
      rw [path_cons, List.append_assoc, List.singleton_append]
      rcases ih hparent (Seg.name n :: rest) with hwalk | hfails
      · rw [hwalk]
        by_cases hfits : fits (n :: dir) = true
        · exact Or.inl (walk_name t fits links hdir hfits)
        · rw [walk_eq, walkWith, if_neg hfits]
          exact Or.inr rfl
      · exact Or.inr hfails

/-- What is found is there and is no link; what is missing is missing in a directory. -/
def Ends (t : Tree N K) : Reached N → Prop
  | Reached.found loc => t.entry loc = some Entry.directory ∨ ∃ k, t.entry loc = some (Entry.leaf k)
  | Reached.missing loc => t.entry loc = none ∧ t.entry loc.tail = some Entry.directory
  | Reached.fails => True

/-- A walk ends properly, whatever becomes of the links, if what follows them does. -/
lemma walkWith_ends (t : Tree N K) (fits : List N → Bool)
    {follow : List N → List (Seg N) → Reached N}
    (hfollow : ∀ dir segs, t.entry dir = some Entry.directory → t.Ends (follow dir segs))
    {dir : List N} (hdir : t.entry dir = some Entry.directory) (segs : List (Seg N)) :
    t.Ends (t.walkWith fits follow dir segs) := by
  induction segs generalizing dir with
  | nil => exact Or.inl hdir
  | cons seg rest ih =>
      cases seg with
      | here => exact ih hdir
      | up =>
          refine @ih dir.tail ?_
          cases dir with
          | nil => exact hdir
          | cons n dir => exact t.parent n dir (by simp [hdir])
      | name n =>
          rw [walkWith]
          by_cases hfits : fits (n :: dir) = true
          · rw [if_pos hfits]
            cases hentry : t.entry (n :: dir) with
            | none =>
                cases rest with
                | nil => exact ⟨hentry, hdir⟩
                | cons seg rest => trivial
            | some e =>
                cases e with
                | directory => exact ih hentry
                | leaf k =>
                    cases rest with
                    | nil => exact Or.inr ⟨k, hentry⟩
                    | cons seg rest => trivial
                | link absolute target =>
                    refine hfollow _ _ ?_
                    cases absolute with
                    | true => exact t.root
                    | false => exact hdir
          · rw [if_neg hfits]
            trivial

/-- A walk that starts in a directory ends properly: at an object, at a missing name in a directory, or
nowhere. -/
lemma walk_ends (t : Tree N K) (fits : List N → Bool) (links : ℕ) {dir : List N}
    (hdir : t.entry dir = some Entry.directory) (segs : List (Seg N)) :
    t.Ends (t.walk fits links dir segs) := by
  induction links generalizing dir segs with
  | zero =>
      have hfollow : ∀ dir segs, t.entry dir = some Entry.directory →
          t.Ends (t.follow fits 0 dir segs) := fun _ _ _ => trivial
      exact walkWith_ends t fits hfollow hdir segs
  | succ links ih => exact walkWith_ends t fits (fun _ segs h => ih h segs) hdir segs

/-- A walk that ends has looked up what it passed. -/
lemma fits_of_missing {t : Tree N K} {fits : List N → Bool}
    {follow : List N → List (Seg N) → Reached N} {n : N} {dir loc : List N} {rest : List (Seg N)}
    (h : t.walkWith fits follow dir (Seg.name n :: rest) = Reached.missing loc) :
    fits (n :: dir) = true := by
  rw [walkWith] at h
  by_cases hfits : fits (n :: dir) = true
  · exact hfits
  · simp [hfits] at h

/-- A location in a place that is there, unless a link stands at it, can only be missing itself. -/
lemma walk_path_missing (t : Tree N K) (fits : List N → Bool) (links : ℕ) {n : N}
    {dir loc : List N} (hdir : t.Ends (Reached.found dir))
    (hlink : ¬ ∃ absolute target, t.entry (n :: dir) = some (Entry.link absolute target))
    (h : t.walk fits links [] (path (n :: dir)) = Reached.missing loc) : loc = n :: dir := by
  rcases hdir with hdir | ⟨k, hleaf⟩
  · rcases t.walk_path fits links hdir [Seg.name n] with hwalk | hfails
    · rw [path_cons, hwalk, walk_eq] at h
      rw [walkWith, if_pos (fits_of_missing h)] at h
      cases hentry : t.entry (n :: dir) with
      | none => simpa [hentry] using h.symm
      | some e =>
          rw [hentry] at h
          cases e with
          | directory => simp [walkWith] at h
          | leaf k => simp at h
          | link absolute target => exact absurd ⟨absolute, target, hentry⟩ hlink
    · rw [path_cons, hfails] at h
      simp at h
  · cases dir with
    | nil => simp [t.root] at hleaf
    | cons m dir =>
        -- the walk does not get past the leaf
        have hparent := t.parent m dir (by simp [hleaf])
        rw [path_cons, path_cons, List.append_assoc, List.singleton_append] at h
        rcases t.walk_path fits links hparent [Seg.name m, Seg.name n] with hwalk | hfails
        · rw [hwalk, walk_eq, walkWith, hleaf] at h
          simp at h
        · rw [hfails] at h
          simp at h

/-! ## Creating

A file that is put at a missing place is found there by the walk that missed it.
-/

section

variable [DecidableEq N] [DecidableEq K] {t : Tree N K} {loc : List N} {k : K}

/-- Grafting changes one entry, the missing one. -/
lemma graft_entry (hmissing : t.Ends (Reached.missing loc)) (l : List N) :
    (t.graft loc k).entry l = if l = loc then some (Entry.leaf k) else t.entry l := by
  have hplace : t.entry loc = none ∧ t.entry loc.tail = some Entry.directory := hmissing
  rw [graft, dif_pos hplace]

/-- A walk that found the location missing finds what has been created there: up to then it has met
nothing but what was there before. -/
lemma walkWith_graft (fits : List N → Bool) (hmissing : t.Ends (Reached.missing loc))
    {follow follow' : List N → List (Seg N) → Reached N}
    (hfollow : ∀ dir segs, follow dir segs = Reached.missing loc →
      follow' dir segs = Reached.found loc)
    {dir : List N} {segs : List (Seg N)}
    (hwalk : t.walkWith fits follow dir segs = Reached.missing loc) :
    (t.graft loc k).walkWith fits follow' dir segs = Reached.found loc := by
  induction segs generalizing dir with
  | nil => simp [walkWith] at hwalk
  | cons seg rest ih =>
      cases seg with
      | here => exact ih hwalk
      | up => exact ih hwalk
      | name n =>
          have hfits := fits_of_missing hwalk
          rw [walkWith, if_pos hfits] at hwalk ⊢
          rw [graft_entry hmissing]
          by_cases hloc : n :: dir = loc
          · rw [hloc, hmissing.1] at hwalk
            rw [if_pos hloc]
            cases rest with
            | nil => exact congrArg Reached.found hloc
            | cons seg rest => simp at hwalk
          · rw [if_neg hloc]
            cases hentry : t.entry (n :: dir) with
            | none =>
                rw [hentry] at hwalk
                cases rest with
                | nil => exact absurd (Reached.missing.inj hwalk) hloc
                | cons seg rest => simp at hwalk
            | some e =>
                rw [hentry] at hwalk
                cases e with
                | directory => exact ih hwalk
                | leaf k' =>
                    cases rest with
                    | nil => simp at hwalk
                    | cons seg rest => simp at hwalk
                | link absolute target => exact hfollow _ _ hwalk

/-- **Whoever creates at the end of a walk finds it there**: the walk that ended at a missing name ends
at the new object. -/
lemma walk_graft (fits : List N → Bool) (links : ℕ) (hmissing : t.Ends (Reached.missing loc))
    {dir : List N} {segs : List (Seg N)}
    (hwalk : t.walk fits links dir segs = Reached.missing loc) :
    (t.graft loc k).walk fits links dir segs = Reached.found loc := by
  induction links generalizing dir segs with
  | zero => exact walkWith_graft fits hmissing (fun _ _ h => absurd h (by simp)) hwalk
  | succ links ih => exact walkWith_graft fits hmissing (fun _ _ h => ih h) hwalk

end

end Tree

end Library
