import Mathlib.Data.Nat.Notation
import Mathlib.Data.Int.Notation

/-!
# JSON values

`serde_json::Value` as the service reads and builds it: field lookup, the `as_*` projections and
the assignment `value["field"] = …`, and printing.  Objects are association lists; where the *order* of an
object's fields matters — the metadata read from a header — they are built in key order, as
`serde_json` keeps them.  Printing and parsing are inverse, so a text is represented by its value.

Numbers are integers, since the metadata and the answers of the service hold no others.  Asking a value that is no object for a field gives nothing, as it does in the source, so that readers of
malformed metadata go on with their defaults.

Printing escapes what has to be escaped and puts no blanks anywhere.  It is the printing that the client
reads back (`JsonText`).
-/

namespace LuksEnroll

/-- `serde_json::Value`, with the integers the service writes as numbers. -/
inductive Json : Type
  | null
  | bool (b : Bool)
  | num (n : ℤ)
  | str (s : String)
  | arr (items : List Json)
  | obj (fields : List (String × Json))

namespace Json

/-- Lookup among an object's fields. -/
def field (key : String) : List (String × Json) → Option Json
  | [] => none
  | x :: fields => if x.1 = key then some x.2 else field key fields

/-- `value.get(key)`: `None` unless the value is an object with that field. -/
def get (key : String) : Json → Option Json
  | obj fields => field key fields
  | _ => none

/-- `as_str`. -/
def asStr : Json → Option String
  | str s => some s
  | _ => none

/-- `as_array`. -/
def asArray : Json → Option (List Json)
  | arr items => some items
  | _ => none

/-- `as_object`. -/
def asObject : Json → Option (List (String × Json))
  | obj fields => some fields
  | _ => none

/-- `value[key] = v` on an object: replace the field, or add it. -/
def set (j : Json) (key : String) (v : Json) : Json :=
  match j with
  | obj fields => obj ((key, v) :: fields.filter fun x => !decide (x.1 = key))
  | j => j

/-- `as_bool`. -/
def asBool : Json → Option Bool
  | bool b => some b
  | _ => none

/-- One character of a printed string. -/
def escape : Char → List Char
  | '"' => ['\\', '"']
  | '\\' => ['\\', '\\']
  | '\n' => ['\\', 'n']
  | '\r' => ['\\', 'r']
  | '\t' => ['\\', 't']
  | c =>
      if c.toNat = 8 then ['\\', 'b']
      else if c.toNat = 12 then ['\\', 'f']
      else if c.toNat < 16 then ['\\', 'u', '0', '0', '0', Nat.digitChar c.toNat]
      else if c.toNat < 32 then ['\\', 'u', '0', '0', '1', Nat.digitChar (c.toNat % 16)]
      else [c]

/-- A string as it is printed: in quotation marks, its characters escaped. -/
def renderStr (s : String) : String := "\"" ++ String.ofList (s.toList.flatMap escape) ++ "\""

mutual

/-- `value.to_string()`: the compact text. -/
def render : Json → String
  | null => "null"
  | bool b => if b then "true" else "false"
  | num n => toString n
  | str s => renderStr s
  | arr items => "[" ++ String.intercalate "," (renderItems items) ++ "]"
  | obj fields => "\x7b" ++ String.intercalate "," (renderFields fields) ++ "\x7d"

/-- The items of an array, each printed. -/
def renderItems : List Json → List String
  | [] => []
  | j :: items => render j :: renderItems items

/-- The fields of an object, each printed with its key. -/
def renderFields : List (String × Json) → List String
  | [] => []
  | (k, j) :: fields => (renderStr k ++ ":" ++ render j) :: renderFields fields

end

@[simp] lemma field_cons_self (key : String) (v : Json) (fields : List (String × Json)) :
    field key ((key, v) :: fields) = some v := by
  simp [field]

@[simp] lemma field_cons_ne {key key' : String} (h : key' ≠ key) (v : Json)
    (fields : List (String × Json)) :
    field key ((key', v) :: fields) = field key fields := by
  simp [field, h]

/-- Taking out the fields of one key leaves the others readable. -/
lemma field_filter_ne {key key' : String} (h : key ≠ key') (fields : List (String × Json)) :
    field key (fields.filter fun x => !decide (x.1 = key')) = field key fields := by
  induction fields with
  | nil => rfl
  | cons x fields ih =>
      by_cases hx : x.1 = key'
      · simp [hx, field, ih, h.symm]
      · simp [hx, field, ih]

/-- Assigning one field leaves the others alone. -/
lemma get_set_ne {key key' : String} (h : key ≠ key') (j v : Json) :
    (j.set key' v).get key = j.get key := by
  cases j with
  | obj fields => rw [set, get, get, field_cons_ne h.symm, field_filter_ne h]
  | _ => rfl

end Json

end LuksEnroll
