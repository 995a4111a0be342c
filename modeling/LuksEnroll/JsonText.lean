import LuksEnroll.Json
import LuksEnroll.Library.Decimal
import LuksEnroll.Library.Dict
import LuksEnroll.Library.Scanning
import Mathlib.Data.Char

/-!
# Reading a JSON text

`json.loads` of the client: white space, literals, whole numbers, strings with their escapes, arrays
and objects.  A text that names a float or half of a surrogate pair has no value here, and is not read.

`loads_render` says that the client reads back what the service has printed: every value whose objects
have distinct keys, as those of `serde_json` do.

The scanners take what they need off the front of a text and hand on the rest.  They are given fuel, as
many steps as the text has characters, which is always enough.

The induction is on the value.  What makes it go through is that a printed value never ends in the
middle of another one: after a number there comes a comma, a bracket or the end (`Ends`), and a value
begins with a character that is no blank (`Begins`).
-/

namespace LuksEnroll

open Library

namespace Json

/-! ## Scanners

`json.loads` as the standard library has it: a scanner for each kind of value, on characters.
-/

/-- White space of a JSON text. -/
def isBlank (c : Char) : Bool := c = ' ' || c = '\t' || c = '\n' || c = '\r'

/-- Blanks before a value mean nothing. -/
def skipBlanks (cs : List Char) : List Char := cs.dropWhile isBlank

/-- The value of a hexadecimal digit. -/
def hexVal (c : Char) : Option ℕ :=
  if c.isDigit then some (c.toNat - 48)
  else if 97 ≤ c.toNat ∧ c.toNat ≤ 102 then some (c.toNat - 87)
  else if 65 ≤ c.toNat ∧ c.toNat ≤ 70 then some (c.toNat - 55)
  else none

/-- `_decode_uXXXX`: four hexadecimal digits. -/
def hexFour : List Char → Option (ℕ × List Char)
  | a :: b :: c :: d :: cs =>
      match hexVal a, hexVal b, hexVal c, hexVal d with
      | some a, some b, some c, some d => some (((a * 16 + b) * 16 + c) * 16 + d, cs)
      | _, _, _, _ => none
  | _ => none

/-- The character of a `\u` escape; two of them make a surrogate pair. -/
def unicodeEscape (cs : List Char) : Option (Char × List Char) :=
  match hexFour cs with
  | none => none
  | some (high, cs) =>
      if 0xd800 ≤ high ∧ high ≤ 0xdbff then
        match cs with
        | '\\' :: 'u' :: cs =>
            match hexFour cs with
            | some (low, cs) =>
                if 0xdc00 ≤ low ∧ low ≤ 0xdfff then
                  some (Char.ofNat (0x10000 + (high - 0xd800) * 0x400 + (low - 0xdc00)), cs)
                else none
            | none => none
        | _ => none
      else if 0xdc00 ≤ high ∧ high ≤ 0xdfff then none
      else some (Char.ofNat high, cs)

/-- The character of an escape, past its backslash. -/
def unescape : List Char → Option (Char × List Char)
  | '"' :: cs => some ('"', cs)
  | '\\' :: cs => some ('\\', cs)
  | '/' :: cs => some ('/', cs)
  | 'b' :: cs => some (Char.ofNat 8, cs)
  | 'f' :: cs => some (Char.ofNat 12, cs)
  | 'n' :: cs => some ('\n', cs)
  | 'r' :: cs => some ('\r', cs)
  | 't' :: cs => some ('\t', cs)
  | 'u' :: cs => unicodeEscape cs
  | _ => none

/-- `scanstring`, past the opening quote.  A control character ends it with an error. -/
def scanString : ℕ → List Char → Option (List Char × List Char)
  | 0, _ => none
  | _ + 1, [] => none
  | n + 1, c :: cs =>
      if c = '"' then some ([], cs)
      else if c = '\\' then
        (unescape cs).bind fun x => (scanString n x.2).map fun y => (x.1 :: y.1, y.2)
      else if c.toNat < 32 then none
      else (scanString n cs).map fun y => (c :: y.1, y.2)

/-- A fraction or an exponent, which makes a number a float. -/
def floatFollows : List Char → Bool
  | '.' :: c :: _ => c.isDigit
  | e :: s :: cs =>
      (e = 'e' || e = 'E')
        && (s.isDigit || ((s = '+' || s = '-') && (cs.head?.map Char.isDigit).getD false))
  | _ => false

/-- The digits of `NUMBER_RE`: a zero, or digits that do not begin with one. -/
def scanNat (cs : List Char) : Option (ℕ × List Char) :=
  match cs with
  | '0' :: rest => some (0, rest)
  | _ => (parseDigits (cs.span Char.isDigit).1).map fun n => (n, (cs.span Char.isDigit).2)

/-- A whole number, its sign given. -/
def scanWhole (sign : ℤ) (cs : List Char) : Option (Json × List Char) :=
  ((scanNat cs).filter fun x => !floatFollows x.2).map fun x => (Json.num (sign * x.1), x.2)

/-- A number: digits, after a minus or not. -/
def scanNumber : List Char → Option (Json × List Char)
  | '-' :: cs => scanWhole (-1) cs
  | cs => scanWhole 1 cs

mutual

/-- `scan_once`. -/
def scanOnce : ℕ → List Char → Option (Json × List Char)
  | 0, _ => none
  | _ + 1, [] => none
  | n + 1, c :: cs =>
      if c = '"' then
        (scanString (cs.length + 1) cs).map fun x => (Json.str (String.ofList x.1), x.2)
      else if c = '\x7b' then
        if (skipBlanks cs).head? = some '\x7d' then some (Json.obj [], (skipBlanks cs).tail)
        else (scanMembers n (skipBlanks cs)).map fun x => (Json.obj (Dict.ofList x.1).entries, x.2)
      else if c = '[' then
        if (skipBlanks cs).head? = some ']' then some (Json.arr [], (skipBlanks cs).tail)
        else (scanItems n (skipBlanks cs)).map fun x => (Json.arr x.1, x.2)
      else if "null".toList <+: c :: cs then some (Json.null, cs.drop 3)
      else if "true".toList <+: c :: cs then some (Json.bool true, cs.drop 3)
      else if "false".toList <+: c :: cs then some (Json.bool false, cs.drop 4)
      else scanNumber (c :: cs)

/-- The loop of `JSONArray`. -/
def scanItems : ℕ → List Char → Option (List Json × List Char)
  | 0, _ => none
  | n + 1, cs =>
      (scanOnce n cs).bind fun x =>
        match skipBlanks x.2 with
        | ',' :: cs => (scanItems n (skipBlanks cs)).map fun y => (x.1 :: y.1, y.2)
        | ']' :: cs => some ([x.1], cs)
        | _ => none

/-- The loop of `JSONObject`. -/
def scanMembers : ℕ → List Char → Option (List (String × Json) × List Char)
  | n + 1, '"' :: cs =>
      (scanString (cs.length + 1) cs).bind fun k =>
        match skipBlanks k.2 with
        | ':' :: cs =>
            (scanOnce n (skipBlanks cs)).bind fun x =>
              match skipBlanks x.2 with
              | ',' :: cs => (scanMembers n (skipBlanks cs)).map fun y =>
                  ((String.ofList k.1, x.1) :: y.1, y.2)
              | '\x7d' :: cs => some ([(String.ofList k.1, x.1)], cs)
              | _ => none
        | _ => none
  | _, _ => none

end

/-- `json.loads`. -/
def loads (text : String) : Option Json :=
  ((scanOnce (text.length + 1) (skipBlanks text.toList)).filter fun x =>
    decide (skipBlanks x.2 = [])).map Prod.fst

/-! ## Strings

An escape for each character that needs one, and its reading.
-/

/-- A hexadecimal digit is read as its value. -/
lemma hexVal_digitChar : ∀ d < 16, hexVal (Nat.digitChar d) = some d := by decide

/-- The escape of a control character, with four hexadecimal digits. -/
lemma unescape_control {c : Char} {high low : ℕ} (hhigh : high < 2) (hlow : low < 16)
    (hc : c.toNat = high * 16 + low) (cs : List Char) :
    unescape ('u' :: '0' :: '0' :: Nat.digitChar high :: Nat.digitChar low :: cs) = some (c, cs) := by
  have hzero : hexVal '0' = some 0 := rfl
  have hchar : Char.ofNat (high * 16 + low) = c := by rw [← hc, Char.ofNat_toNat]
  have hsmall : ¬ (0xd800 ≤ high * 16 + low) := by omega
  have hsmall' : ¬ (0xdc00 ≤ high * 16 + low) := by omega
  simp [unescape, unicodeEscape, hexFour, hzero, hexVal_digitChar high (by omega),
    hexVal_digitChar low hlow, hsmall, hsmall', hchar]

lemma scanString_backslash {c : Char} {cs rest : List Char} (h : unescape cs = some (c, rest)) (n : ℕ) :
    scanString (n + 1) ('\\' :: cs) = (scanString n rest).map fun y => (c :: y.1, y.2) := by
  simp [scanString, h]

/-- **One printed character is read back.** -/
lemma scanString_escape (c : Char) (n : ℕ) (cs : List Char) :
    scanString (n + 1) (escape c ++ cs) = (scanString n cs).map fun y => (c :: y.1, y.2) := by
  rw [escape.eq_def]
  split
  · exact scanString_backslash rfl n
  · exact scanString_backslash rfl n
  · exact scanString_backslash rfl n
  · exact scanString_backslash rfl n
  · exact scanString_backslash rfl n
  · rename_i hquote hback _ _ _
    split_ifs with h8 h12 h16 h32
    · have hc : Char.ofNat 8 = c := by rw [← h8, Char.ofNat_toNat]
      exact hc ▸ scanString_backslash rfl n
    · have hc : Char.ofNat 12 = c := by rw [← h12, Char.ofNat_toNat]
      exact hc ▸ scanString_backslash rfl n
    · have hread := unescape_control (by omega : 0 < 2) h16 (by omega : c.toNat = 0 * 16 + c.toNat) cs
      exact scanString_backslash hread n
    · have hread := unescape_control (by omega : 1 < 2) (by omega : c.toNat % 16 < 16)
        (by omega : c.toNat = 1 * 16 + c.toNat % 16) cs
      exact scanString_backslash hread n
    · have hquote' : c ≠ '"' := hquote
      have hback' : c ≠ '\\' := hback
      simp [scanString, hquote', hback', h32]

/-- **A printed string is read back**, if there is fuel for each of its characters. -/
lemma scanString_render {n : ℕ} {cs : List Char} (hn : cs.length < n) (rest : List Char) :
    scanString n (cs.flatMap escape ++ '"' :: rest) = some (cs, rest) := by
  induction cs generalizing n with
  | nil =>
      obtain ⟨n, rfl⟩ := Nat.exists_eq_add_of_lt hn
      simp [scanString]
  | cons c cs ih =>
      obtain ⟨m, rfl⟩ : ∃ m, n = m + 1 := ⟨n - 1, by simp only [List.length_cons] at hn; omega⟩
      simp only [List.length_cons] at hn
      rw [List.flatMap_cons, List.append_assoc, scanString_escape, ih (by omega)]
      rfl

/-! ## Numbers

Digits, a sign, and that a number ends where something else begins.
-/

/-- What can follow a value inside an array or an object, or nothing. -/
def Ends (cs : List Char) : Prop := ∀ c ∈ cs.head?, c = ',' ∨ c = ']' ∨ c = '\x7d'

/-- What may follow a value: a comma or a closing bracket. -/
lemma ends_cons {c : Char} {cs : List Char} (hc : c = ',' ∨ c = ']' ∨ c = '\x7d') : Ends (c :: cs) := by
  intro d hd
  obtain rfl : c = d := Option.some.inj hd
  exact hc

/-- No digit follows a value, so a number is read to its end. -/
lemma Ends.not_isDigit {cs : List Char} (h : Ends cs) : ∀ c ∈ cs.head?, c.isDigit = false := by
  intro c hc
  rcases h c hc with rfl | rfl | rfl <;> rfl

lemma Ends.not_float {cs : List Char} (h : Ends cs) : floatFollows cs = false := by
  cases cs with
  | nil => rfl
  | cons c cs =>
      rcases h c rfl with rfl | rfl | rfl
      · cases cs <;> simp [floatFollows]
      · cases cs <;> simp [floatFollows]
      · cases cs <;> simp [floatFollows]

/-- Printed digits are read as their number, up to what follows. -/
lemma scanNat_toDigits (m : ℕ) {rest : List Char} (hrest : Ends rest) :
    scanNat (Nat.toDigits 10 m ++ rest) = some (m, rest) := by
  rcases Nat.eq_zero_or_pos m with rfl | hpos
  · rfl
  · have hscan := span_append (digits_toDigits m).2 hrest.not_isDigit
    rw [scanNat.eq_def]
    split
    · rename_i h
      have hhead : (Nat.toDigits 10 m).head? = some '0' := by
        rw [← List.head?_append_of_ne_nil _ Nat.toDigits_ne_nil, h]
        rfl
      exact absurd hhead (head_toDigits hpos)
    · rw [hscan, parseDigits_toDigits]
      rfl

lemma scanWhole_toDigits (sign : ℤ) (m : ℕ) {rest : List Char} (hrest : Ends rest) :
    scanWhole sign (Nat.toDigits 10 m ++ rest) = some (Json.num (sign * m), rest) := by
  simp [scanWhole, scanNat_toDigits m hrest, hrest.not_float]

/-- **A printed number is read back.** -/
lemma scanNumber_render (n : ℤ) {rest : List Char} (hrest : Ends rest) :
    scanNumber ((toString n).toList ++ rest) = some (Json.num n, rest) := by
  rw [toList_toString_int]
  split_ifs with hneg
  · have habs : -1 * (n.natAbs : ℤ) = n := by omega
    rw [List.cons_append, scanNumber, scanWhole_toDigits _ _ hrest, habs]
  · obtain ⟨c, cs, hdigits, hc⟩ := exists_digit_cons n.natAbs
    have habs : 1 * (n.natAbs : ℤ) = n := by omega
    have hminus : c ≠ '-' := by rintro rfl; exact absurd hc (by decide)
    have hscan := scanWhole_toDigits 1 n.natAbs hrest
    rw [hdigits, List.cons_append] at hscan ⊢
    rw [scanNumber, hscan, habs]
    exact fun cs' h => hminus (List.cons.inj h).1

/-! ## Values

How the text of an array or an object begins, goes on and ends.
-/

/-- The first character of a value: not white space, and not the end of an array. -/
def Begins (c : Char) : Prop := isBlank c = false ∧ c ≠ ']'

lemma begins_number {c : Char} (hc : c = '-' ∨ c.isDigit = true) : Begins c := by
  rcases hc with rfl | hc
  · exact ⟨rfl, by decide⟩
  · refine ⟨?_, ?_⟩
    · have hblank : ∀ d : Char, isBlank d = true → d.isDigit = false := by
        intro d hd
        simp only [isBlank, Bool.or_eq_true, decide_eq_true_eq] at hd
        rcases hd with ((rfl | rfl) | rfl) | rfl <;> rfl
      by_contra hne
      rw [hblank c (by simpa using hne)] at hc
      cases hc
    · rintro rfl
      cases hc

lemma toString_cons (n : ℤ) :
    ∃ c cs, (toString n).toList = c :: cs ∧ (c = '-' ∨ c.isDigit = true) := by
  rw [toList_toString_int]
  split_ifs with hneg
  · exact ⟨_, _, rfl, Or.inl rfl⟩
  · obtain ⟨c, cs, hdigits, hc⟩ := exists_digit_cons n.natAbs
    exact ⟨c, cs, hdigits, Or.inr hc⟩

/-- The text of a value, taken apart at its first character. -/
lemma render_cons (j : Json) : ∃ c cs, j.render.toList = c :: cs ∧ Begins c := by
  cases j with
  | null => exact ⟨'n', _, rfl, rfl, by decide⟩
  | bool b =>
      cases b with
      | false => exact ⟨'f', _, rfl, rfl, by decide⟩
      | true => exact ⟨'t', _, rfl, rfl, by decide⟩
  | num n =>
      obtain ⟨c, cs, hcs, hc⟩ := toString_cons n
      exact ⟨c, cs, by rw [render, hcs], begins_number hc⟩
  | str s => exact ⟨'"', _, by simp [render, renderStr]; rfl, rfl, by decide⟩
  | arr items => exact ⟨'[', _, by simp [render]; rfl, rfl, by decide⟩
  | obj fields => exact ⟨'\x7b', _, by simp [render]; rfl, rfl, by decide⟩

/-- Nothing is skipped where no blank stands. -/
lemma skipBlanks_cons {c : Char} (hc : isBlank c = false) (cs : List Char) :
    skipBlanks (c :: cs) = c :: cs := by
  simp [skipBlanks, hc]

/-- What follows the first item of an array. -/
def afterItem : List Json → List Char
  | [] => [']']
  | j :: items => ',' :: (j.render.toList ++ afterItem items)

/-- One field of an object. -/
def fieldText (x : String × Json) : List Char := (renderStr x.1).toList ++ ':' :: x.2.render.toList

/-- What follows the first field of an object. -/
def afterField : List (String × Json) → List Char
  | [] => ['\x7d']
  | x :: fields => ',' :: (fieldText x ++ afterField fields)

/-- The items of an array after the first one, each behind its comma. -/
lemma intercalate_items (j : Json) (items : List Json) :
    List.intercalate [','] ((renderItems (j :: items)).map String.toList) ++ [']']
      = j.render.toList ++ afterItem items := by
  induction items generalizing j with
  | nil => simp [renderItems, afterItem]
  | cons k items ih =>
      have hrest := ih k
      rw [renderItems, List.map_cons] at hrest ⊢
      rw [renderItems, List.map_cons, List.intercalate_cons_cons, List.append_assoc, List.append_assoc,
        hrest]
      rfl

/-- The fields of an object after the first one, each behind its comma. -/
lemma intercalate_fields (x : String × Json) (fields : List (String × Json)) :
    List.intercalate [','] ((renderFields (x :: fields)).map String.toList) ++ ['\x7d']
      = fieldText x ++ afterField fields := by
  induction fields generalizing x with
  | nil => simp [renderFields, afterField, fieldText]
  | cons y fields ih =>
      have hrest := ih y
      rw [renderFields, List.map_cons] at hrest ⊢
      rw [renderFields, List.map_cons, List.intercalate_cons_cons, List.append_assoc, List.append_assoc,
        hrest]
      simp [afterField, fieldText]

/-- An array, printed, is its first item and what comes after an item. -/
lemma render_arr_cons (j : Json) (items : List Json) :
    (render (arr (j :: items))).toList = '[' :: (j.render.toList ++ afterItem items) := by
  rw [← intercalate_items, render, String.toList_append, String.toList_append, String.toList_intercalate]
  rfl

/-- An object, printed, is its first field and what comes after a field. -/
lemma render_obj_cons (x : String × Json) (fields : List (String × Json)) :
    (render (obj (x :: fields))).toList = '\x7b' :: (fieldText x ++ afterField fields) := by
  rw [← intercalate_fields, render, String.toList_append, String.toList_append,
    String.toList_intercalate]
  rfl

/-- A string, printed, is its escaped characters between quotation marks. -/
lemma renderStr_toList (s : String) :
    (renderStr s).toList = '"' :: (s.toList.flatMap escape ++ ['"']) := by
  simp [renderStr]

/-- Every object has distinct keys, as the maps of `serde_json` and the dictionaries of Python do. -/
inductive Distinct : Json → Prop
  | null : Distinct null
  | bool (b : Bool) : Distinct (bool b)
  | num (n : ℤ) : Distinct (num n)
  | str (s : String) : Distinct (str s)
  | arr {items : List Json} (h : ∀ j ∈ items, Distinct j) : Distinct (arr items)
  | obj {fields : List (String × Json)} (keys : (fields.map Prod.fst).Nodup)
      (h : ∀ x ∈ fields, Distinct x.2) : Distinct (obj fields)

/-! ## Reading back

By induction on the value, with what follows it left standing.
-/

/-- What begins like a number is scanned as one. -/
lemma scanOnce_number (n : ℕ) {c : Char} (hc : c = '-' ∨ c.isDigit = true) (cs : List Char) :
    scanOnce (n + 1) (c :: cs) = scanNumber (c :: cs) := by
  have hother : ∀ d : Char, d ≠ '-' → d.isDigit = false → c ≠ d := by
    rintro d hminus hdigit rfl
    rcases hc with hc | hc
    · exact hminus hc
    · rw [hdigit] at hc
      cases hc
  have hquote := hother '"' (by decide) rfl
  have hbrace := hother '\x7b' (by decide) rfl
  have hbracket := hother '[' (by decide) rfl
  have hn := hother 'n' (by decide) rfl
  have ht := hother 't' (by decide) rfl
  have hf := hother 'f' (by decide) rfl
  simp [scanOnce, hquote, hbrace, hbracket, hn.symm, ht.symm, hf.symm]

/-- Escaping a character never makes it vanish. -/
lemma length_escape (c : Char) : 0 < (escape c).length := by
  rw [escape.eq_def]
  split
  · simp
  · simp
  · simp
  · simp
  · simp
  · split_ifs <;> simp

/-- An escaped text is at least as long as the text, which bounds the fuel that reading it takes. -/
lemma length_flatMap_escape (cs : List Char) : cs.length ≤ (cs.flatMap escape).length := by
  induction cs with
  | nil => simp
  | cons c cs ih =>
      have hc := length_escape c
      rw [List.flatMap_cons, List.length_append, List.length_cons]
      omega

/-- **A string is read back** where a value is, or a key. -/
lemma scanString_toList (s : String) {cs rest : List Char}
    (h : (renderStr s).toList ++ rest = '"' :: cs) :
    scanString (cs.length + 1) cs = some (s.toList, rest) := by
  rw [renderStr_toList, List.cons_append, List.append_assoc, List.singleton_append] at h
  obtain rfl := (List.cons.inj h).2
  have hlonger := length_flatMap_escape s.toList
  refine scanString_render ?_ rest
  rw [List.length_append]
  omega

lemma scanOnce_str (n : ℕ) (s : String) (rest : List Char) :
    scanOnce (n + 1) ((renderStr s).toList ++ rest) = some (Json.str s, rest) := by
  obtain ⟨cs, hcs⟩ : ∃ cs, (renderStr s).toList ++ rest = '"' :: cs := ⟨_, by rw [renderStr_toList]; rfl⟩
  rw [hcs, scanOnce, if_pos rfl, scanString_toList s hcs, Option.map_some, String.ofList_toList]

lemma skipBlanks_render (j : Json) (rest : List Char) :
    skipBlanks (j.render.toList ++ rest) = j.render.toList ++ rest := by
  obtain ⟨c, cs, hcs, hblank, -⟩ := render_cons j
  rw [hcs]
  exact skipBlanks_cons hblank _

/-- The first item of an array, and what is left to read. -/
lemma scanItems_step {n : ℕ} {j : Json} {cs : List Char} {items : List Json} {rest : List Char}
    (hj : scanOnce n cs = some (j, afterItem items ++ rest))
    (hitems : ∀ k items', items = k :: items' →
      scanItems n (k.render.toList ++ (afterItem items' ++ rest)) = some (k :: items', rest)) :
    scanItems (n + 1) cs = some (j :: items, rest) := by
  rw [scanItems, hj, Option.bind_some]
  cases items with
  | nil => rfl
  | cons k items' =>
      have hcomma : skipBlanks (afterItem (k :: items') ++ rest)
          = ',' :: (k.render.toList ++ (afterItem items' ++ rest)) := by
        rw [afterItem, List.cons_append, List.append_assoc]
        rfl
      simp only [hcomma, skipBlanks_render, hitems k items' rfl, Option.map_some]

/-- The text of a field begins with the quote of its key. -/
lemma fieldText_append (x : String × Json) (rest : List Char) :
    ∃ cs, fieldText x ++ rest = '"' :: cs
      ∧ scanString (cs.length + 1) cs = some (x.1.toList, ':' :: (x.2.render.toList ++ rest)) := by
  obtain ⟨cs, hcs⟩ : ∃ cs, (renderStr x.1).toList ++ ':' :: (x.2.render.toList ++ rest) = '"' :: cs :=
    ⟨_, by rw [renderStr_toList]; rfl⟩
  refine ⟨cs, ?_, scanString_toList x.1 hcs⟩
  rw [← hcs, fieldText, List.append_assoc, List.cons_append]

/-- The first field of an object, and what is left to read. -/
lemma scanMembers_step {n : ℕ} {x : String × Json} {fields : List (String × Json)} {rest : List Char}
    (hx : scanOnce n (x.2.render.toList ++ (afterField fields ++ rest))
      = some (x.2, afterField fields ++ rest))
    (hfields : ∀ y fields', fields = y :: fields' →
      scanMembers n (fieldText y ++ (afterField fields' ++ rest)) = some (y :: fields', rest)) :
    scanMembers (n + 1) (fieldText x ++ (afterField fields ++ rest)) = some (x :: fields, rest) := by
  obtain ⟨cs, hcs, hkey⟩ := fieldText_append x (afterField fields ++ rest)
  have hcolon : skipBlanks (':' :: (x.2.render.toList ++ (afterField fields ++ rest)))
      = ':' :: (x.2.render.toList ++ (afterField fields ++ rest)) := rfl
  rw [hcs, scanMembers, hkey, Option.bind_some]
  simp only [hcolon, skipBlanks_render, hx, Option.bind_some]
  cases fields with
  | nil =>
      simp only [afterField, List.singleton_append, skipBlanks_cons (c := '\x7d') rfl,
        String.ofList_toList]
  | cons y fields' =>
      obtain ⟨cs', hcs', -⟩ := fieldText_append y (afterField fields' ++ rest)
      have hstart : skipBlanks (fieldText y ++ (afterField fields' ++ rest))
          = fieldText y ++ (afterField fields' ++ rest) := by
        rw [hcs']
        rfl
      have hcomma : skipBlanks (afterField (y :: fields') ++ rest)
          = ',' :: (fieldText y ++ (afterField fields' ++ rest)) := by
        rw [afterField, List.cons_append, List.append_assoc]
        rfl
      simp only [hcomma, hstart, hfields y fields' rfl, Option.map_some, String.ofList_toList]

lemma afterItem_ends (items : List Json) (rest : List Char) : Ends (afterItem items ++ rest) := by
  cases items with
  | nil => exact ends_cons (by simp)
  | cons j items => exact ends_cons (by simp)

/-- Behind a field an object goes on or ends. -/
lemma afterField_ends (fields : List (String × Json)) (rest : List Char) :
    Ends (afterField fields ++ rest) := by
  cases fields with
  | nil => exact ends_cons (by simp)
  | cons x fields => exact ends_cons (by simp)

/-- What the scanners read back with this much fuel. -/
structure ReadsBack (n : ℕ) : Prop where
  value : ∀ {j : Json} {rest : List Char}, j.Distinct → j.render.toList.length ≤ n → Ends rest →
    scanOnce n (j.render.toList ++ rest) = some (j, rest)
  items : ∀ {j : Json} {items : List Json} {rest : List Char}, (∀ k ∈ j :: items, Distinct k) →
    (j.render.toList ++ afterItem items).length ≤ n →
    scanItems n (j.render.toList ++ (afterItem items ++ rest)) = some (j :: items, rest)
  members : ∀ {x : String × Json} {fields : List (String × Json)} {rest : List Char},
    (∀ y ∈ x :: fields, Distinct y.2) → (fieldText x ++ afterField fields).length ≤ n →
    scanMembers n (fieldText x ++ (afterField fields ++ rest)) = some (x :: fields, rest)

lemma scanOnce_arr_cons {n : ℕ} {j : Json} {items : List Json} {rest : List Char}
    (h : scanItems n (j.render.toList ++ (afterItem items ++ rest)) = some (j :: items, rest)) :
    scanOnce (n + 1) ((render (arr (j :: items))).toList ++ rest) = some (arr (j :: items), rest) := by
  have hopen : (j.render.toList ++ (afterItem items ++ rest)).head? ≠ some ']' := by
    obtain ⟨c, cs, hcs, -, hc⟩ := render_cons j
    rw [hcs]
    simpa using hc
  rw [render_arr_cons, List.cons_append, List.append_assoc, scanOnce, if_neg (by decide),
    if_neg (by decide), if_pos rfl, skipBlanks_render, if_neg hopen, h, Option.map_some]

/-- An object is read back if its fields are, and its keys are distinct. -/
lemma scanOnce_obj_cons {n : ℕ} {x : String × Json} {fields : List (String × Json)} {rest : List Char}
    (hkeys : ((x :: fields).map Prod.fst).Nodup)
    (h : scanMembers n (fieldText x ++ (afterField fields ++ rest)) = some (x :: fields, rest)) :
    scanOnce (n + 1) ((render (obj (x :: fields))).toList ++ rest) = some (obj (x :: fields), rest) := by
  obtain ⟨cs, hcs, -⟩ := fieldText_append x (afterField fields ++ rest)
  have hstart : skipBlanks (fieldText x ++ (afterField fields ++ rest))
      = fieldText x ++ (afterField fields ++ rest) := by
    rw [hcs]
    rfl
  have hopen : (fieldText x ++ (afterField fields ++ rest)).head? ≠ some '\x7d' := by
    rw [hcs]
    simp
  rw [render_obj_cons, List.cons_append, List.append_assoc, scanOnce, if_neg (by decide), if_pos rfl,
    hstart, if_neg hopen, h, Option.map_some, Dict.ofList_entries hkeys]

lemma length_render (j : Json) : 0 < j.render.toList.length := by
  obtain ⟨c, cs, hcs, -⟩ := render_cons j
  simp [hcs]

/-- A field is longer than its value, which bounds the fuel. -/
lemma length_fieldText (x : String × Json) : x.2.render.toList.length < (fieldText x).length := by
  rw [fieldText, List.length_append, List.length_cons]
  omega

/-- **What is printed is read back**, by induction on the fuel: the parts of a text are shorter. -/
lemma readsBack (n : ℕ) : ReadsBack n := by
  induction n with
  | zero =>
      refine ⟨fun {j} _ _ hn _ => ?_, fun {j} _ _ _ hn => ?_, fun {x} _ _ _ hn => ?_⟩
      · have hj := length_render j
        omega
      · have hj := length_render j
        rw [List.length_append] at hn
        omega
      · have hx := length_fieldText x
        rw [List.length_append] at hn
        omega
  | succ n ih =>
      constructor
      · intro j rest hj hn hrest
        cases hj with
        | null => simp [render, scanOnce]
        | bool b =>
            cases b with
            | false => simp [render, scanOnce]
            | true => simp [render, scanOnce]
        | num m =>
            obtain ⟨c, cs, hcs, hc⟩ := toString_cons m
            have hscan := scanNumber_render m hrest
            rw [render]
            rw [hcs, List.cons_append] at hscan ⊢
            rw [scanOnce_number n hc, hscan]
        | str s => exact scanOnce_str n s rest
        | @arr items hitems =>
            cases items with
            | nil => simp [render, renderItems, scanOnce, skipBlanks, isBlank]
            | cons j items =>
                rw [render_arr_cons, List.length_cons] at hn
                exact scanOnce_arr_cons (ih.items hitems (by omega))
        | @obj fields hkeys hfields =>
            cases fields with
            | nil => simp [render, renderFields, scanOnce, skipBlanks, isBlank]
            | cons x fields =>
                rw [render_obj_cons, List.length_cons] at hn
                exact scanOnce_obj_cons hkeys (ih.members hfields (by omega))
      · intro j items rest hall hn
        have hj := length_render j
        rw [List.length_append] at hn
        refine scanItems_step (ih.value (hall j (by simp)) ?_ (afterItem_ends items rest)) ?_
        · have hitems : 0 < (afterItem items).length := by cases items <;> simp [afterItem]
          omega
        · rintro k items' rfl
          refine ih.items (fun l hl => hall l (List.mem_cons_of_mem j hl)) ?_
          rw [afterItem, List.length_cons] at hn
          omega
      · intro x fields rest hall hn
        have hx := length_fieldText x
        rw [List.length_append] at hn
        refine scanMembers_step (ih.value (hall x (by simp)) (by omega) (afterField_ends fields rest)) ?_
        rintro y fields' rfl
        refine ih.members (fun z hz => hall z (List.mem_cons_of_mem x hz)) ?_
        rw [afterField, List.length_cons] at hn
        omega

/-- **The client reads what the service prints.** -/
theorem loads_render {j : Json} (hj : j.Distinct) : loads j.render = some j := by
  have hfuel : j.render.toList.length ≤ j.render.length + 1 := by rw [String.length_toList]; omega
  have hends : Ends [] := by simp [Ends]
  have hscan := (readsBack (j.render.length + 1)).value hj hfuel hends
  have hstart := skipBlanks_render j []
  rw [List.append_nil] at hscan hstart
  rw [loads, hstart, hscan]
  simp [skipBlanks]

end Json

end LuksEnroll
