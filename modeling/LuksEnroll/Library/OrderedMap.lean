import Mathlib.Data.List.Basic
import Mathlib.Order.Lattice

/-!
# Maps kept in key order

An association list whose keys are strictly increasing: iteration goes in key order and a key
occurs once.  The order is a field of the structure, so a map out of order cannot be built.

The map is the ordered tree map of the standard libraries, seen from outside: what counts is which keys it
has, in which order they come, and what a list of entries makes when they are inserted one after the
other (`ofList`), where a later entry for a key replaces an earlier one.
-/

namespace Library

/-- A finite map, iterated in key order. -/
structure OrderedMap (K V : Type) [LinearOrder K] where
  entries : List (K × V)
  sorted : (entries.map Prod.fst).Pairwise (· < ·)

namespace OrderedMap

variable {K V : Type} [LinearOrder K]

/-- Insertion into the entries: an equal key is replaced. -/
def insertEntry (k : K) (v : V) : List (K × V) → List (K × V)
  | [] => [(k, v)]
  | x :: l =>
      if k < x.1 then (k, v) :: x :: l
      else if k = x.1 then (k, v) :: l
      else x :: insertEntry k v l

lemma mem_keys_insertEntry {k : K} {v : V} {l : List (K × V)} {j : K} :
    j ∈ (insertEntry k v l).map Prod.fst ↔ j = k ∨ j ∈ l.map Prod.fst := by
  induction l with
  | nil => simp [insertEntry]
  | cons x l ih =>
      simp only [insertEntry]
      split_ifs with h1 h2
      · simp
      · subst h2; simp
      · simp only [List.map_cons, List.mem_cons, ih]
        tauto

lemma sorted_insertEntry {k : K} {v : V} {l : List (K × V)}
    (h : (l.map Prod.fst).Pairwise (· < ·)) :
    ((insertEntry k v l).map Prod.fst).Pairwise (· < ·) := by
  induction l with
  | nil => simp [insertEntry]
  | cons x l ih =>
      simp only [List.map_cons, List.pairwise_cons] at h
      simp only [insertEntry]
      split_ifs with h1 h2
      · simp only [List.map_cons, List.pairwise_cons, List.mem_cons]
        refine ⟨?_, h⟩
        rintro j (rfl | hj)
        · exact h1
        · exact lt_trans h1 (h.1 j hj)
      · simp only [List.map_cons, List.pairwise_cons]
        rw [h2]
        exact h
      · simp only [List.map_cons, List.pairwise_cons]
        refine ⟨fun j hj => ?_, ih h.2⟩
        rcases mem_keys_insertEntry.mp hj with rfl | hj
        · exact lt_of_le_of_ne (not_lt.mp h1) (Ne.symm h2)
        · exact h.1 j hj

/-- A new key leaves every other entry where it was. -/
lemma mem_insertEntry {k : K} {v : V} {l : List (K × V)} (hk : k ∉ l.map Prod.fst)
    {x : K × V} : x ∈ insertEntry k v l ↔ x = (k, v) ∨ x ∈ l := by
  induction l with
  | nil => simp [insertEntry]
  | cons y l ih =>
      simp only [List.map_cons, List.mem_cons, not_or] at hk
      simp only [insertEntry]
      split_ifs with h1 h2
      · simp
      · exact absurd h2 hk.1
      · simp only [List.mem_cons, ih hk.2]
        tauto

instance : EmptyCollection (OrderedMap K V) := ⟨⟨[], List.Pairwise.nil⟩⟩

/-- Insert, replacing the value of an equal key. -/
def insert (m : OrderedMap K V) (k : K) (v : V) : OrderedMap K V :=
  ⟨insertEntry k v m.entries, sorted_insertEntry m.sorted⟩

/-- The value of a key, or a default. -/
def getD (m : OrderedMap K V) (k : K) (d : V) : V :=
  ((m.entries.find? fun x => x.1 = k).map Prod.snd).getD d

/-- Insert the entries of a list one after the other. -/
def ofList (l : List (K × V)) : OrderedMap K V :=
  l.foldl (fun m x => m.insert x.1 x.2) ∅

/-- The keys, in increasing order. -/
def keys (m : OrderedMap K V) : List K := m.entries.map Prod.fst

lemma keys_nodup (m : OrderedMap K V) : m.keys.Nodup :=
  m.sorted.imp fun h => ne_of_lt h

/-- The keys after inserting a list: the old ones and those of the list. -/
lemma mem_keys_foldl {l : List (K × V)} {m : OrderedMap K V} {k : K} :
    k ∈ (l.foldl (fun m x => m.insert x.1 x.2) m).keys ↔ k ∈ m.keys ∨ k ∈ l.map Prod.fst := by
  induction l generalizing m with
  | nil => simp
  | cons x l ih =>
      rw [List.foldl_cons, ih]
      simp only [keys, insert, mem_keys_insertEntry, List.map_cons, List.mem_cons]
      tauto

@[simp] lemma mem_keys_ofList {l : List (K × V)} {k : K} :
    k ∈ (ofList l).keys ↔ k ∈ l.map Prod.fst := by
  rw [ofList, mem_keys_foldl]
  simp [keys, EmptyCollection.emptyCollection]

/-- With distinct new keys every entry of the list gets in, and nothing is replaced. -/
lemma mem_foldl {l : List (K × V)} {m : OrderedMap K V} (hl : (l.map Prod.fst).Nodup)
    (hm : ∀ k ∈ l.map Prod.fst, k ∉ m.keys) {x : K × V} :
    x ∈ (l.foldl (fun m x => m.insert x.1 x.2) m).entries ↔ x ∈ m.entries ∨ x ∈ l := by
  induction l generalizing m with
  | nil => simp
  | cons y l ih =>
      simp only [List.map_cons, List.nodup_cons] at hl
      have hy : y.1 ∉ m.keys := hm y.1 (by simp)
      rw [List.foldl_cons, ih hl.2]
      · simp only [insert, mem_insertEntry hy, List.mem_cons]
        tauto
      · intro k hk
        simp only [keys, insert, mem_keys_insertEntry, not_or]
        refine ⟨fun h => hl.1 (h ▸ hk), hm k ?_⟩
        rw [List.map_cons]
        exact List.mem_cons_of_mem _ hk

/-- With distinct keys nothing is replaced: the map holds exactly the listed entries. -/
lemma mem_ofList {l : List (K × V)} (hl : (l.map Prod.fst).Nodup) {x : K × V} :
    x ∈ (ofList l).entries ↔ x ∈ l := by
  rw [ofList, mem_foldl hl]
  · simp [EmptyCollection.emptyCollection]
  · simp [keys, EmptyCollection.emptyCollection]

lemma ext_mem {m m' : OrderedMap K V} (h : ∀ x, x ∈ m.entries ↔ x ∈ m'.entries) : m = m' := by
  obtain ⟨l, hl⟩ := m
  obtain ⟨l', hl'⟩ := m'
  rw [List.pairwise_map] at hl hl'
  have hnodup : l.Nodup := hl.imp fun hab heq => absurd (heq ▸ hab) (lt_irrefl _)
  have hnodup' : l'.Nodup := hl'.imp fun hab heq => absurd (heq ▸ hab) (lt_irrefl _)
  have hperm : l.Perm l' := (List.perm_ext_iff_of_nodup hnodup hnodup').mpr h
  obtain rfl := hperm.eq_of_pairwise (fun _ _ _ _ hab hba => absurd hab (lt_asymm hba)) hl hl'
  rfl

/-- Entries that are listed in another order, and each once, make the same map. -/
lemma ofList_eq {m : OrderedMap K V} {l : List (K × V)} (hl : (l.map Prod.fst).Nodup)
    (h : ∀ x, x ∈ l ↔ x ∈ m.entries) : ofList l = m :=
  ext_mem fun x => (mem_ofList hl).trans (h x)

end OrderedMap

end Library
