import Mathlib.Data.List.Nodup
import Mathlib.Data.List.Lattice

/-!
# Maps kept in insertion order

An association list with distinct keys, iterated in the order in which the keys were first set.
Setting a key that is there replaces its value and leaves it where it is.

The map is the dictionary of a language whose dictionaries remember the order of insertion.  Its operations
are the ones a bounded table is made of: set, look up, erase, and make room by dropping the oldest entries
(`evict`).  What each does to the entries is said by a lemma of its own, so that an invariant of a table
can be proved without unfolding any of them.
-/

namespace Library

/-- A finite map, iterated in insertion order. -/
structure Dict (K V : Type) where
  entries : List (K × V)
  nodup : (entries.map Prod.fst).Nodup

namespace Dict

variable {K V : Type} [DecidableEq K]

instance : EmptyCollection (Dict K V) := ⟨⟨[], List.nodup_nil⟩⟩

/-- Replace the value of the key where it is, or append the new entry. -/
def setEntry (k : K) (v : V) : List (K × V) → List (K × V)
  | [] => [(k, v)]
  | x :: l => if x.1 = k then (k, v) :: l else x :: setEntry k v l

lemma mem_keys_setEntry {k j : K} {v : V} {l : List (K × V)} :
    j ∈ (setEntry k v l).map Prod.fst ↔ j = k ∨ j ∈ l.map Prod.fst := by
  induction l with
  | nil => simp [setEntry]
  | cons x l ih =>
      by_cases hx : x.1 = k
      · simp [setEntry, hx]
      · simp only [setEntry, hx, if_false, List.map_cons, List.mem_cons, ih]
        tauto

lemma nodup_setEntry {k : K} {v : V} {l : List (K × V)} (h : (l.map Prod.fst).Nodup) :
    ((setEntry k v l).map Prod.fst).Nodup := by
  induction l with
  | nil => simp [setEntry]
  | cons x l ih =>
      simp only [List.map_cons, List.nodup_cons] at h
      by_cases hx : x.1 = k
      · rw [setEntry, if_pos hx, List.map_cons, List.nodup_cons]
        exact hx ▸ h
      · rw [setEntry, if_neg hx, List.map_cons, List.nodup_cons, mem_keys_setEntry, not_or]
        exact ⟨⟨hx, h.1⟩, ih h.2⟩

/-- A key that is not there is set at the end. -/
lemma setEntry_of_not_mem {k : K} {v : V} {l : List (K × V)} (h : k ∉ l.map Prod.fst) :
    setEntry k v l = l ++ [(k, v)] := by
  induction l with
  | nil => rfl
  | cons x l ih =>
      simp only [List.map_cons, List.mem_cons, not_or] at h
      simp [setEntry, Ne.symm h.1, ih h.2]

lemma setEntry_newest {k : K} {v old : V} {l : List (K × V)} (h : k ∉ l.map Prod.fst) :
    setEntry k v (l ++ [(k, old)]) = l ++ [(k, v)] := by
  induction l with
  | nil => simp [setEntry]
  | cons x l ih =>
      simp only [List.map_cons, List.mem_cons, not_or] at h
      simp [setEntry, Ne.symm h.1, ih h.2]

lemma length_setEntry_le {k : K} {v : V} {l : List (K × V)} :
    (setEntry k v l).length ≤ l.length + 1 := by
  induction l with
  | nil => simp [setEntry]
  | cons x l ih =>
      by_cases hx : x.1 = k
      · simp [setEntry, hx]
      · simp only [setEntry, hx, if_false, List.length_cons]
        omega

/-- `m[k] = v`. -/
def set (m : Dict K V) (k : K) (v : V) : Dict K V :=
  ⟨setEntry k v m.entries, nodup_setEntry m.nodup⟩

/-- `m.get(k)`. -/
def get? (m : Dict K V) (k : K) : Option V :=
  (m.entries.find? fun x => x.1 = k).map Prod.snd

/-- `del m[k]`. -/
def erase (m : Dict K V) (k : K) : Dict K V :=
  ⟨m.entries.filter fun x => x.1 ≠ k, (m.nodup.sublist (List.filter_sublist.map Prod.fst))⟩

/-- Drop entries, the oldest first, while there are `bound` or more. -/
def evictEntries (bound : ℕ) : List (K × V) → List (K × V)
  | [] => []
  | x :: l => if bound ≤ l.length + 1 then evictEntries bound l else x :: l

omit [DecidableEq K] in
/-- What is kept is the newer part of the list. -/
lemma evictEntries_suffix (bound : ℕ) (l : List (K × V)) : evictEntries bound l <:+ l := by
  induction l with
  | nil => exact List.suffix_rfl
  | cons x l ih =>
      simp only [evictEntries]
      split_ifs with h
      · exact ih.trans (List.suffix_cons x l)
      · exact List.suffix_rfl

omit [DecidableEq K] in
lemma length_evictEntries_lt {bound : ℕ} (hb : 0 < bound) (l : List (K × V)) :
    (evictEntries bound l).length < bound := by
  induction l with
  | nil => exact hb
  | cons x l ih =>
      simp only [evictEntries]
      split_ifs with h
      · exact ih
      · simpa using h

omit [DecidableEq K] in
/-- The newest entries stay, as long as there are fewer of them than the bound. -/
lemma evictEntries_append (bound : ℕ) (front newest : List (K × V))
    (h : newest.length < bound) :
    ∃ front', evictEntries bound (front ++ newest) = front' ++ newest := by
  induction front with
  | nil =>
      refine ⟨[], ?_⟩
      cases newest with
      | nil => rfl
      | cons x l =>
          rw [List.nil_append, evictEntries, if_neg]
          simpa using h
  | cons x front ih =>
      simp only [List.cons_append, evictEntries]
      split_ifs with hb
      · exact ih
      · exact ⟨x :: front, rfl⟩

omit [DecidableEq K] in
lemma evictEntries_of_length_lt {bound : ℕ} {l : List (K × V)} (h : l.length < bound) :
    evictEntries bound l = l := by
  cases l with
  | nil => rfl
  | cons x l =>
      rw [evictEntries, if_neg]
      simpa using h

/-- `while len(m) >= bound: del m[next(iter(m))]`. -/
def evict (m : Dict K V) (bound : ℕ) : Dict K V :=
  ⟨evictEntries bound m.entries,
    m.nodup.sublist ((evictEntries_suffix bound m.entries).sublist.map Prod.fst)⟩

/-- Set the entries of a list one after the other. -/
def ofList (l : List (K × V)) : Dict K V := l.foldl (fun m x => m.set x.1 x.2) ∅

/-- Setting distinct new keys one after the other appends their entries. -/
lemma foldl_set_entries {l : List (K × V)} {m : Dict K V}
    (h : ((m.entries ++ l).map Prod.fst).Nodup) :
    (l.foldl (fun m x => m.set x.1 x.2) m).entries = m.entries ++ l := by
  induction l generalizing m with
  | nil => simp
  | cons x l ih =>
      have hx : x.1 ∉ m.entries.map Prod.fst := by
        rw [List.map_append, List.map_cons] at h
        exact fun hmem => (List.nodup_append.mp h).2.2 _ hmem _ List.mem_cons_self rfl
      have hset : (m.set x.1 x.2).entries = m.entries ++ [x] := setEntry_of_not_mem hx
      have hrest : (m.set x.1 x.2).entries ++ l = m.entries ++ x :: l := by
        rw [hset, List.append_assoc, List.singleton_append]
      rw [List.foldl_cons, ih (hrest ▸ h), hrest]

/-- With distinct keys nothing is replaced, and the order is that of the list. -/
lemma ofList_entries {l : List (K × V)} (h : (l.map Prod.fst).Nodup) : (ofList l).entries = l :=
  foldl_set_entries (m := ∅) h

/-- Reading a key finds the entry that the map has for it. -/
lemma get?_eq_some {m : Dict K V} {k : K} {v : V} : m.get? k = some v ↔ (k, v) ∈ m.entries := by
  obtain ⟨l, hl⟩ := m
  simp only [get?]
  induction l with
  | nil => simp
  | cons x l ih =>
      simp only [List.map_cons, List.nodup_cons] at hl
      by_cases hx : x.1 = k
      · subst hx
        have hout : (x.1, v) ∉ l := fun h => hl.1 (List.mem_map.mpr ⟨_, h, rfl⟩)
        simp only [List.find?_cons, decide_true, Option.map_some, Option.some.injEq, List.mem_cons,
          hout, or_false]
        constructor
        · rintro rfl
          rfl
        · intro h
          rw [← h]
      · simp only [List.find?_cons, hx, decide_false, List.mem_cons]
        rw [ih hl.2]
        constructor
        · exact Or.inr
        · rintro (h | h)
          · exact absurd (h ▸ rfl) hx
          · exact h

lemma get?_eq_none {m : Dict K V} {k : K} : m.get? k = none ↔ k ∉ m.entries.map Prod.fst := by
  rw [Option.eq_none_iff_forall_ne_some]
  simp [get?_eq_some]

/-- Erasing takes out the entries of the key and no others. -/
lemma mem_erase {m : Dict K V} {k j : K} {v : V} :
    (j, v) ∈ (m.erase k).entries ↔ j ≠ k ∧ (j, v) ∈ m.entries := by
  simp [erase, and_comm]

omit [DecidableEq K] in
/-- Making room leaves fewer entries than the bound. -/
lemma length_evict_lt {bound : ℕ} (hb : 0 < bound) (m : Dict K V) :
    (m.evict bound).entries.length < bound :=
  length_evictEntries_lt hb m.entries

lemma length_set_le {m : Dict K V} {k : K} {v : V} :
    (m.set k v).entries.length ≤ m.entries.length + 1 :=
  length_setEntry_le

lemma length_erase_le {m : Dict K V} {k : K} :
    (m.erase k).entries.length ≤ m.entries.length :=
  List.length_filter_le _ _

omit [DecidableEq K] in
/-- What is there after making room was there before. -/
lemma mem_evict {m : Dict K V} {bound : ℕ} {x : K × V} (h : x ∈ (m.evict bound).entries) :
    x ∈ m.entries :=
  (evictEntries_suffix bound m.entries).mem h

/-- After a key was set it has the value, and the other keys what they had. -/
lemma mem_set {m : Dict K V} {k j : K} {v w : V} :
    (j, w) ∈ (m.set k v).entries ↔ (j = k ∧ w = v) ∨ (j ≠ k ∧ (j, w) ∈ m.entries) := by
  obtain ⟨l, hl⟩ := m
  simp only [set]
  induction l with
  | nil => simp [setEntry]
  | cons x l ih =>
      simp only [List.map_cons, List.nodup_cons] at hl
      by_cases hx : x.1 = k
      · subst hx
        have hout : ∀ w, (x.1, w) ∉ l := fun w h => hl.1 (List.mem_map.mpr ⟨_, h, rfl⟩)
        simp only [setEntry, if_true, List.mem_cons, Prod.mk.injEq]
        constructor
        · rintro (h | h)
          · exact Or.inl h
          · exact Or.inr ⟨fun hj => hout w (hj ▸ h), Or.inr h⟩
        · rintro (h | ⟨hne, h | h⟩)
          · exact Or.inl h
          · exact absurd (congrArg Prod.fst h) hne
          · exact Or.inr h
      · simp only [setEntry, hx, if_false, List.mem_cons, ih hl.2]
        constructor
        · rintro (h | h | h)
          · exact Or.inr ⟨fun hj => hx (by rw [← h, hj]), Or.inl h⟩
          · exact Or.inl h
          · exact Or.inr ⟨h.1, Or.inr h.2⟩
        · rintro (h | ⟨hne, h | h⟩)
          · exact Or.inr (Or.inl h)
          · exact Or.inl h
          · exact Or.inr (Or.inr ⟨hne, h⟩)

end Dict

end Library
