import LuksEnroll.JsonText
import LuksEnroll.Library.Traversal
import LuksEnroll.Methods
import Mathlib.Data.Set.List

/-!
# Five views of one metadata

`list_keyslots`, `tokens_by_type`, `token_type_keyslots`, `password_keyslots` and
`find_token_for_keyslot` each read the metadata anew, in an order and with defaults of their own, and
the client reads two of the answers once more, out of their JSON texts.  What is wiped and what is
shown depends on all of them saying the same.

They do (`views_agree`), where the numbers of keyslots and tokens are printed integers and every token
has a type.  One number is excepted: `find_token_for_keyslot` says `-1` for "no token", so it cannot name
a token with that number (`minus_one_differs`).

Each view is a pure function of the metadata (`keyslotsIn`, `tokensByTypeIn`, …), which the functions of
the service apply to what they read.  The theorem compares them through one description of the metadata:
the entries of its two tables, by number and by type.
-/

namespace LuksEnroll

open Library

/-! ## The texts

Two of the views are answered as JSON.
-/

/-- What `keyslots_json` prints. -/
def keyslotsJsonIn (metadata : Option Json) : Json :=
  Json.obj (OrderedMap.ofList
    ((keyslotsIn metadata).entries.map fun x => (toString x.1, Json.str x.2))).entries

/-- What `tokens_json` prints. -/
def tokensJsonIn (tokenType : String) (metadata : Option Json) : Json :=
  Json.arr ((tokensByTypeIn tokenType metadata).map fun t =>
    Json.arr [Json.num t.1, Json.arr (t.2.map Json.num)])

/-- `list_keyslots` is the view on the metadata that was read. -/
lemma keyslotsJson_eq (device : String) :
    keyslotsJson device = (metadataJson device).bind fun m => Prog.ret (keyslotsJsonIn m) := by
  rw [keyslotsJson, listKeyslots, Prog.bind_def, Prog.bind_def, Prog.bind_assoc]
  rfl

lemma tokensJson_eq (device tokenType : String) :
    tokensJson device tokenType
      = (metadataJson device).bind fun m => Prog.ret (tokensJsonIn tokenType m) := rfl

/-! ## The client

The client reads them with `int`, and raises where Python does.
-/

/-- `int(x)`. -/
def pyInt : Json → Except Raised ℤ
  | Json.num n => Except.ok n
  | Json.bool b => Except.ok (if b then 1 else 0)
  | Json.str s =>
      match parseSigned s.toList with
      | some n => Except.ok n
      | none => Except.error Raised.other
  | _ => Except.error Raised.other

/-- `iter(x)`: a dictionary gives its keys, a string its characters. -/
def pyIter : Json → Except Raised (List Json)
  | Json.arr items => Except.ok items
  | Json.obj fields => Except.ok (fields.map fun x => Json.str x.1)
  | Json.str s => Except.ok (s.toList.map fun c => Json.str (String.singleton c))
  | _ => Except.error Raised.other

/-- `(int(tid), [int(s) for s in slots])`, for an item that has two parts. -/
def pyToken (item : Json) : Except Raised (ℤ × List ℤ) := do
  match ← pyIter item with
  | [tid, slots] => return (← pyInt tid, ← (← pyIter slots).mapM pyInt)
  | _ => Except.error Raised.other

/-- The list that `get_tokens_by_type` makes out of the answer. -/
def pyTokens (raw : Json) : Except Raised (List (ℤ × List ℤ)) := do
  (← pyIter raw).mapM pyToken

/-- An answer is a text; one that is no JSON raises. -/
def fromText {α : Type} (decode : Json → Except Raised α) (text : String) : Except Raised α :=
  match Json.loads text with
  | some raw => decode raw
  | none => Except.error Raised.other

/-- `LuksEnrollProxy.get_keyslots`, from the text on. -/
def getKeyslots (text : String) : Except Raised (OrderedMap ℤ String) := fromText pyKeyslots text

/-- `LuksEnrollProxy.get_tokens_by_type`, from the text on. -/
def getTokensByType (text : String) : Except Raised (List (ℤ × List ℤ)) := fromText pyTokens text

/-! ## Statements

The condition on metadata, and what it is for the views to agree.
-/

/-- The keys are the texts of numbers that fit into 32 bits. -/
def Numbered (table : List (String × Json)) : Prop :=
  ∀ x ∈ table, ∃ n : ℤ, -2147483648 ≤ n ∧ n ≤ 2147483647 ∧ x.1 = toString n

/-- Metadata whose keyslots and tokens have numbers, and whose tokens have types. -/
structure NumberedMetadata (metadata : Json) : Prop where
  distinct : metadata.Distinct
  keyslots : Numbered (tableOf "keyslots" metadata)
  tokens : Numbered (tableOf "tokens" metadata)
  typed : ∀ t ∈ tableOf "tokens" metadata, ∃ tokenType, (t.2.get "type").bind Json.asStr = some tokenType

/-- **The views agree**, and so does what the client makes of them. -/
structure ViewsAgree (metadata : Json) : Prop where
  /-- For every keyslot: no token is found for it exactly if it is a password keyslot, and exactly if no
  type has a token that lists it. -/
  free : ∀ s ∈ (keyslotsIn (some metadata)).keys,
    (s ∈ passwordKeyslotsIn (some metadata) ↔ tokenForKeyslotIn s (some metadata) = -1)
      ∧ (tokenForKeyslotIn s (some metadata) = -1
        ↔ ∀ tokenType, ∀ t ∈ tokensByTypeIn tokenType (some metadata), s ∉ t.2)
  increasing : (passwordKeyslotsIn (some metadata)).Pairwise (· < ·)
  among : ∀ s ∈ passwordKeyslotsIn (some metadata), s ∈ (keyslotsIn (some metadata)).keys
  /-- A token is listed once, with its keyslots and for its own type. -/
  ownType : ∀ x ∈ tableOf "tokens" metadata, ∀ tokenType,
    (x.2.get "type").bind Json.asStr = some tokenType → ∃ tid, x.1 = toString tid
      ∧ ∀ tokenType', ((tokensByTypeIn tokenType' (some metadata)).map Prod.fst).count tid
        = if tokenType' = tokenType then 1 else 0
  typeKeyslots : ∀ tokenType, (tokenTypeKeyslots metadata tokenType).Nodup
    ∧ ∀ s, s ∈ tokenTypeKeyslots metadata tokenType
      ↔ ∃ t ∈ tokensByTypeIn tokenType (some metadata), s ∈ t.2
  readKeyslots : getKeyslots (keyslotsJsonIn (some metadata)).render
    = Except.ok (keyslotsIn (some metadata))
  readTokens : ∀ tokenType, getTokensByType (tokensJsonIn tokenType (some metadata)).render
    = Except.ok (tokensByTypeIn tokenType (some metadata))
  /-- These are the texts of the two methods, in every run that reads this metadata. -/
  answered : ∀ (H : Handler Cmd Reply Oracle World) (device : String) (os : ℕ → Oracle) (w : World),
    ((metadataJson device).run H os w).1 = Except.ok (some metadata) →
      ((keyslotsJson device).run H os w).1 = Except.ok (keyslotsJsonIn (some metadata))
        ∧ ∀ tokenType, ((tokensJson device tokenType).run H os w).1
          = Except.ok (tokensJsonIn tokenType (some metadata))

/-! ## Numbers

Keys that are printed numbers are read back, and differ when their numbers do.
-/

/-- A number that fits is read back as itself. -/
lemma parseI32_number {n : ℤ} (hlow : -2147483648 ≤ n) (hhigh : n ≤ 2147483647) :
    parseI32 (toString n) = some n := parseInt_toString_int hlow hhigh

lemma Numbered.parse {table : List (String × Json)} (h : Numbered table) {x : String × Json}
    (hx : x ∈ table) : ∃ n : ℤ, x.1 = toString n ∧ parseI32 x.1 = some n := by
  obtain ⟨n, hlow, hhigh, hn⟩ := h x hx
  exact ⟨n, hn, by rw [hn, parseI32_number hlow hhigh]⟩

lemma Numbered.sub {table table' : List (String × Json)} (h : Numbered table) (hsub : table' ⊆ table) :
    Numbered table' := fun x hx => h x (hsub hx)

/-- The numbers of a table, one for every key. -/
lemma Numbered.numbers {table : List (String × Json)} (h : Numbered table) :
    table.map Prod.fst = (table.filterMap fun x => parseI32 x.1).map toString := by
  induction table with
  | nil => rfl
  | cons x table ih =>
      obtain ⟨n, hkey, hparse⟩ := h.parse (x := x) (by simp)
      have hrest := ih (h.sub (List.subset_cons_self x table))
      have hcons : (x :: table).filterMap (fun y => parseI32 y.1)
          = n :: table.filterMap fun y => parseI32 y.1 := List.filterMap_cons_some hparse
      rw [hcons, List.map_cons, List.map_cons, hkey, hrest]

lemma Numbered.nodup {table : List (String × Json)} (h : Numbered table)
    (hkeys : (table.map Prod.fst).Nodup) : (table.filterMap fun x => parseI32 x.1).Nodup := by
  rw [h.numbers] at hkeys
  exact hkeys.of_map _

/-- A field of an object has distinct keys, as the object has. -/
lemma Json.Distinct.field {fields : List (String × Json)} (h : ∀ x ∈ fields, Json.Distinct x.2)
    {key : String} {j : Json} (hj : Json.field key fields = some j) : j.Distinct := by
  induction fields with
  | nil => cases hj
  | cons x fields ih =>
      rw [Json.field] at hj
      split_ifs at hj
      · exact Option.some.inj hj ▸ h x (by simp)
      · exact ih (fun y hy => h y (List.mem_cons_of_mem x hy)) hj

lemma tableOf_nodup {metadata : Json} (h : metadata.Distinct) (key : String) :
    ((tableOf key metadata).map Prod.fst).Nodup := by
  rw [tableOf]
  cases hget : metadata.get key with
  | none => exact List.nodup_nil
  | some j =>
      have hj : j.Distinct := by
        cases h with
        | obj keys hfields => exact Json.Distinct.field hfields hget
        | _ => cases hget
      cases hj with
      | obj keys hfields => exact keys
      | _ => exact List.nodup_nil

/-! ## What each view has

Each view by the entries of the two tables.
-/

section

variable {metadata : Json} {tokenType : String} {s : ℤ}

/-- A keyslot is listed when the table has its number. -/
lemma mem_keyslotsIn : s ∈ (keyslotsIn (some metadata)).keys
    ↔ ∃ x ∈ tableOf "keyslots" metadata, parseI32 x.1 = some s := by
  rw [keyslotsIn, mem_keys_foldl_listKeyslot]
  simp [OrderedMap.keys, EmptyCollection.emptyCollection]

/-- It is a password's when no token lists it. -/
lemma mem_passwordKeyslotsIn : s ∈ passwordKeyslotsIn (some metadata)
    ↔ s ∈ (keyslotsIn (some metadata)).keys
      ∧ ∀ x ∈ tableOf "tokens" metadata, s ∉ tokenKeyslots x.2 := by
  rw [mem_keyslotsIn]
  simp [passwordKeyslotsIn]

/-- A token is listed with its keyslots when the table has it under its type. -/
lemma mem_tokensByTypeIn {t : ℤ × List ℤ} : t ∈ tokensByTypeIn tokenType (some metadata)
    ↔ ∃ x ∈ tableOf "tokens" metadata, hasType tokenType x.2 = true ∧ parseI32 x.1 = some t.1
      ∧ tokenKeyslots x.2 = t.2 := by
  simp only [tokensByTypeIn, List.mem_mergeSort, List.mem_filterMap, List.mem_filter,
    Option.map_eq_some_iff]
  constructor
  · rintro ⟨x, ⟨hx, htype⟩, tid, htid, rfl⟩
    exact ⟨x, hx, htype, htid, rfl⟩
  · rintro ⟨x, hx, htype, htid, hslots⟩
    exact ⟨x, ⟨hx, htype⟩, t.1, htid, by rw [hslots]⟩

/-- A keyslot is listed by some token of some type exactly if it is listed at all. -/
lemma unlisted_iff (h : NumberedMetadata metadata) :
    (∀ tokenType, ∀ t ∈ tokensByTypeIn tokenType (some metadata), s ∉ t.2)
      ↔ ∀ x ∈ tableOf "tokens" metadata, s ∉ tokenKeyslots x.2 := by
  constructor
  · intro hnone x hx hs
    obtain ⟨tid, -, hparse⟩ := h.tokens.parse hx
    obtain ⟨tokenType, htype⟩ := h.typed x hx
    exact hnone tokenType (tid, tokenKeyslots x.2)
      (mem_tokensByTypeIn.mpr ⟨x, hx, by simp [hasType, htype], hparse, rfl⟩) hs
  · rintro hnone tokenType t ht
    obtain ⟨x, hx, -, -, hslots⟩ := mem_tokensByTypeIn.mp ht
    rw [← hslots]
    exact hnone x hx

/-- `-1` stands for no token, if no token has that number. -/
lemma tokenForKeyslotIn_iff (h : NumberedMetadata metadata)
    (hminus : ∀ x ∈ tableOf "tokens" metadata, x.1 ≠ "-1") :
    tokenForKeyslotIn s (some metadata) = -1
      ↔ ∀ x ∈ tableOf "tokens" metadata, s ∉ tokenKeyslots x.2 := by
  have hparse : ∀ x ∈ tableOf "tokens" metadata, (parseI32 x.1).isSome := by
    intro x hx
    obtain ⟨n, -, hn⟩ := h.tokens.parse hx
    rw [hn]
    rfl
  rw [tokenForKeyslotIn]
  rcases findToken_cases s (tableOf "tokens" metadata) hparse with ⟨hfound, hnone⟩ | ⟨x, hx, htid, hs⟩
  · exact iff_of_true hfound hnone
  · refine iff_of_false (fun hfound => hminus x hx ?_) fun hnone => hnone x hx hs
    obtain ⟨n, hkey, hn⟩ := h.tokens.parse hx
    rw [hn, hfound, Option.some.injEq] at htid
    rw [hkey, htid]
    rfl

lemma passwordKeyslotsIn_strict (h : NumberedMetadata metadata) :
    (passwordKeyslotsIn (some metadata)).Pairwise (· < ·) := by
  have hnodup : (passwordKeyslotsIn (some metadata)).Nodup := by
    simp only [passwordKeyslotsIn]
    rw [(List.mergeSort_perm _ _).nodup_iff]
    exact (h.keyslots.nodup (tableOf_nodup h.distinct _)).filter _
  exact ((passwordKeyslotsIn_sorted _).and hnodup).imp fun hab => lt_of_le_of_ne hab.1 hab.2

lemma tokensByTypeIn_numbers (tokenType : String) (metadata : Json) :
    ((tokensByTypeIn tokenType (some metadata)).map Prod.fst).Perm
      (((tableOf "tokens" metadata).filter fun x => hasType tokenType x.2).filterMap fun x =>
        parseI32 x.1) := by
  have hnumbers := ((List.mergeSort_perm (((tableOf "tokens" metadata).filter fun t =>
    hasType tokenType t.2).filterMap fun t => (parseI32 t.1).map fun tid => (tid, tokenKeyslots t.2))
    tokenLe).map Prod.fst)
  rw [List.map_filterMap] at hnumbers
  simpa [tokensByTypeIn, Function.comp_def] using hnumbers

/-- A token is listed once under its own type, and not under another. -/
lemma count_tokensByTypeIn (h : NumberedMetadata metadata) {x : String × Json}
    (hx : x ∈ tableOf "tokens" metadata) {tid : ℤ} (hkey : x.1 = toString tid)
    (htype : (x.2.get "type").bind Json.asStr = some tokenType) (tokenType' : String) :
    ((tokensByTypeIn tokenType' (some metadata)).map Prod.fst).count tid
      = if tokenType' = tokenType then 1 else 0 := by
  have hkeys := tableOf_nodup h.distinct "tokens"
  have hsub : (tableOf "tokens" metadata).filter (fun y => hasType tokenType' y.2)
      ⊆ tableOf "tokens" metadata := fun y hy => List.mem_of_mem_filter hy
  have hnodup := (h.tokens.sub hsub).nodup (hkeys.sublist (List.filter_sublist.map Prod.fst))
  have hmem : tid ∈ ((tableOf "tokens" metadata).filter fun y => hasType tokenType' y.2).filterMap
      (fun y => parseI32 y.1) ↔ tokenType' = tokenType := by
    obtain ⟨n, hkey', hparse⟩ := h.tokens.parse hx
    obtain rfl : n = tid := toString_int_injective (hkey'.symm.trans hkey)
    simp only [List.mem_filterMap, List.mem_filter]
    constructor
    · rintro ⟨y, ⟨hy, htype'⟩, hn⟩
      obtain ⟨m, hykey, hm⟩ := h.tokens.parse hy
      obtain rfl : m = n := Option.some.inj (hm.symm.trans hn)
      obtain rfl : y = x := List.inj_on_of_nodup_map hkeys hy hx (hykey.trans hkey.symm)
      have heq : (y.2.get "type").bind Json.asStr = some tokenType' := of_decide_eq_true htype'
      exact Option.some.inj (heq.symm.trans htype)
    · rintro rfl
      exact ⟨x, ⟨hx, by simp [hasType, htype]⟩, hparse⟩
  rw [(tokensByTypeIn_numbers tokenType' metadata).count_eq, hnodup.count]
  simp only [hmem]

/-- A keyslot belongs to a type when a token of that type lists it. -/
lemma mem_tokenTypeKeyslots_iff (h : NumberedMetadata metadata) :
    s ∈ tokenTypeKeyslots metadata tokenType
      ↔ ∃ t ∈ tokensByTypeIn tokenType (some metadata), s ∈ t.2 := by
  rw [mem_tokenTypeKeyslots]
  constructor
  · rintro ⟨x, hx, htype, hs⟩
    obtain ⟨tid, -, hparse⟩ := h.tokens.parse hx
    exact ⟨(tid, tokenKeyslots x.2), mem_tokensByTypeIn.mpr ⟨x, hx, htype, hparse, rfl⟩, hs⟩
  · rintro ⟨t, ht, hs⟩
    obtain ⟨x, hx, htype, -, hslots⟩ := mem_tokensByTypeIn.mp ht
    exact ⟨x, hx, htype, by rwa [hslots]⟩

end

/-! ## What the client reads

What was printed is read back, so that the client's views are the service's.
-/

lemma fromText_render {α : Type} {decode : Json → Except Raised α} {j : Json} (hj : j.Distinct) :
    fromText decode j.render = decode j := by
  rw [fromText, Json.loads_render hj]

lemma pyToken_json (t : ℤ × List ℤ) :
    pyToken (Json.arr [Json.num t.1, Json.arr (t.2.map Json.num)]) = Except.ok t := by
  have hslots : (t.2.map Json.num).mapM pyInt = Except.ok t.2 := mapM_map_eq_ok fun _ _ => rfl
  show (do return (t.1, ← (t.2.map Json.num).mapM pyInt) : Except Raised (ℤ × List ℤ)) = _
  rw [hslots]
  rfl

/-- **The tokens of a type are read back.** -/
lemma getTokensByType_render (tokenType : String) (metadata : Option Json) :
    getTokensByType (tokensJsonIn tokenType metadata).render
      = Except.ok (tokensByTypeIn tokenType metadata) := by
  have hdistinct : (tokensJsonIn tokenType metadata).Distinct := by
    refine Json.Distinct.arr fun j hj => ?_
    obtain ⟨t, -, rfl⟩ := List.mem_map.mp hj
    refine Json.Distinct.arr fun k hk => ?_
    rcases List.mem_pair.mp hk with rfl | rfl
    · exact Json.Distinct.num t.1
    · refine Json.Distinct.arr fun l hl => ?_
      obtain ⟨n, -, rfl⟩ := List.mem_map.mp hl
      exact Json.Distinct.num n
  rw [getTokensByType, fromText_render hdistinct]
  exact mapM_map_eq_ok fun t _ => pyToken_json t

/-- Items whose keys are numbers and whose values are strings, one after the other. -/
lemma pyItems_eq {l : List (ℤ × String)} {items : List (String × Json)} {out : OrderedMap ℤ String}
    (h : items = l.map fun x => (toString x.1, Json.str x.2)) :
    pyItems out items = Except.ok (l.foldl (fun m x => m.insert x.1 x.2) out) := by
  subst h
  induction l generalizing out with
  | nil => rfl
  | cons x l ih =>
      rw [List.map_cons, List.foldl_cons, ← ih, pyItems, parseSigned_toString]
      rfl

/-- A keyslot as a field of the answer. -/
def slotField (x : ℤ × String) : String × Json := (toString x.1, Json.str x.2)

/-- Different keyslots have different keys in the table. -/
lemma slotField_injective : Function.Injective slotField := by
  rintro ⟨m, s⟩ ⟨n, t⟩ h
  simp only [slotField, Prod.mk.injEq, Json.str.injEq] at h
  rw [toString_int_injective h.1, h.2]

/-- **The keyslots are read back**, though they come in the order of their texts. -/
lemma getKeyslots_render (metadata : Option Json) :
    getKeyslots (keyslotsJsonIn metadata).render = Except.ok (keyslotsIn metadata) := by
  set items := (OrderedMap.ofList ((keyslotsIn metadata).entries.map slotField)).entries with hitems
  have hkeys : (((keyslotsIn metadata).entries.map slotField).map Prod.fst).Nodup := by
    have hnodup := (keyslotsIn metadata).keys_nodup.map toString_int_injective
    rw [OrderedMap.keys, List.map_map] at hnodup
    rwa [List.map_map]
  have hmem : ∀ x, x ∈ items ↔ x ∈ (keyslotsIn metadata).entries.map slotField := fun x =>
    OrderedMap.mem_ofList hkeys
  have hfields : (items.map Prod.fst).Nodup := OrderedMap.keys_nodup _
  obtain ⟨l, hl⟩ : ∃ l : List (ℤ × String), l.map slotField = items := by
    have hrange : items ∈ Set.range (List.map slotField) := by
      rw [Set.range_list_map]
      intro x hx
      obtain ⟨y, -, rfl⟩ := List.mem_map.mp ((hmem x).mp hx)
      exact ⟨y, rfl⟩
    exact hrange
  have hdistinct : (keyslotsJsonIn metadata).Distinct := by
    refine Json.Distinct.obj hfields fun x hx => ?_
    obtain ⟨y, -, rfl⟩ := List.mem_map.mp ((hmem x).mp hx)
    exact Json.Distinct.str y.2
  have hnumbers : (l.map Prod.fst).Nodup := by
    rw [← hl, List.map_map] at hfields
    refine List.Nodup.of_map toString ?_
    rwa [List.map_map]
  have hsame : ∀ x, x ∈ l ↔ x ∈ (keyslotsIn metadata).entries := by
    intro x
    rw [← List.mem_map_of_injective slotField_injective, hl, hmem,
      List.mem_map_of_injective slotField_injective]
  rw [getKeyslots, fromText_render hdistinct]
  exact (pyItems_eq hl.symm).trans (congrArg Except.ok (OrderedMap.ofList_eq hnumbers hsame))

/-! ## The theorem

And the one number that is left out.
-/

/-- **The five views agree, and the client reads them as they are**, whatever else is in the metadata,
if no token has the number `-1`. -/
theorem views_agree {metadata : Json} (h : NumberedMetadata metadata)
    (hminus : ∀ x ∈ tableOf "tokens" metadata, x.1 ≠ "-1") : ViewsAgree metadata where
  free := by
    intro s hs
    rw [tokenForKeyslotIn_iff h hminus, unlisted_iff h, mem_passwordKeyslotsIn]
    exact ⟨and_iff_right hs, Iff.rfl⟩
  increasing := passwordKeyslotsIn_strict h
  among := fun s hs => (mem_passwordKeyslotsIn.mp hs).1
  ownType := by
    intro x hx tokenType htype
    obtain ⟨tid, hkey, -⟩ := h.tokens.parse hx
    exact ⟨tid, hkey, fun tokenType' => count_tokensByTypeIn h hx hkey htype tokenType'⟩
  typeKeyslots := fun tokenType =>
    ⟨tokenTypeKeyslots_nodup metadata tokenType, fun s => mem_tokenTypeKeyslots_iff h⟩
  readKeyslots := getKeyslots_render (some metadata)
  readTokens := fun tokenType => getTokensByType_render tokenType (some metadata)
  answered := by
    intro H device os w hread
    have hrun : (metadataJson device).run H os w
        = (Except.ok (some metadata), ((metadataJson device).run H os w).2) := Prod.ext hread rfl
    refine ⟨?_, fun tokenType => ?_⟩
    · rw [keyslotsJson_eq, Prog.run_bind_ok hrun]
      rfl
    · rw [tokensJson_eq, Prog.run_bind_ok hrun]
      rfl

/-- A keyslot, and a token of this number that lists it. -/
def oneToken (number : String) : Json :=
  Json.obj [
    ("keyslots", Json.obj [("0", Json.obj [("type", Json.str "luks2")])]),
    ("tokens", Json.obj [(number, Json.obj [
      ("keyslots", Json.arr [Json.str "0"]),
      ("type", Json.str tokenTypeFido2)])])]

/-- The metadata of the example has distinct keys. -/
lemma oneToken_distinct (number : String) : (oneToken number).Distinct := by
  have hslot : Json.Distinct (Json.obj [("type", Json.str "luks2")]) :=
    Json.Distinct.obj (by simp) (by simp [Json.Distinct.str])
  have hlist : Json.Distinct (Json.arr [Json.str "0"]) :=
    Json.Distinct.arr (by simp [Json.Distinct.str])
  have htoken : Json.Distinct (Json.obj [("keyslots", Json.arr [Json.str "0"]),
      ("type", Json.str tokenTypeFido2)]) :=
    Json.Distinct.obj (by simp) (by simp [Json.Distinct.str, hlist])
  have hslots : Json.Distinct (Json.obj [("0", Json.obj [("type", Json.str "luks2")])]) :=
    Json.Distinct.obj (by simp) (by simp [hslot])
  have htokens : Json.Distinct (Json.obj [(number, Json.obj [("keyslots", Json.arr [Json.str "0"]),
      ("type", Json.str tokenTypeFido2)])]) := Json.Distinct.obj (by simp) (by simp [htoken])
  exact Json.Distinct.obj (by simp) (by simp [hslots, htokens])

/-- Its numbers are printed ones, when the token's is. -/
lemma oneToken_numbered {n : ℤ} (hlow : -2147483648 ≤ n) (hhigh : n ≤ 2147483647) :
    NumberedMetadata (oneToken (toString n)) where
  distinct := oneToken_distinct (toString n)
  keyslots := by
    intro x hx
    obtain rfl : x = ("0", Json.obj [("type", Json.str "luks2")]) := List.mem_singleton.mp hx
    exact ⟨0, by omega, by omega, rfl⟩
  tokens := by
    intro x hx
    obtain rfl := List.mem_singleton.mp hx
    exact ⟨n, hlow, hhigh, rfl⟩
  typed := by
    intro x hx
    obtain rfl := List.mem_singleton.mp hx
    exact ⟨tokenTypeFido2, rfl⟩

/-- The views of a volume with one token. -/
theorem one_token_agrees : ViewsAgree (oneToken "3") :=
  views_agree (oneToken_numbered (n := 3) (by omega) (by omega)) (by
    intro x hx
    obtain rfl := List.mem_singleton.mp hx
    decide)

/-- **A token with the number `-1` is not found**, though it lists the keyslot. -/
theorem minus_one_differs : ¬ ∀ metadata, NumberedMetadata metadata → ViewsAgree metadata := by
  intro h
  have hnumber : toString (-1 : ℤ) = "-1" := rfl
  have hnumbered : NumberedMetadata (oneToken (toString (-1 : ℤ))) :=
    oneToken_numbered (by omega) (by omega)
  rw [hnumber] at hnumbered
  have hviews := h _ hnumbered
  have hkeyslot : (0 : ℤ) ∈ (keyslotsIn (some (oneToken "-1"))).keys :=
    mem_keyslotsIn.mpr ⟨_, List.mem_singleton.mpr rfl, rfl⟩
  have hfound : tokenForKeyslotIn 0 (some (oneToken "-1")) = -1 := rfl
  have hfree := (mem_passwordKeyslotsIn.mp ((hviews.free 0 hkeyslot).1.mpr hfound)).2
  exact hfree _ (List.mem_singleton.mpr rfl) (List.mem_singleton.mpr rfl)

end LuksEnroll
