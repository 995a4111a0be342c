import LuksEnroll.FileSystem

/-!
# Python's text functions

`str.splitlines` and `str.strip` as the client uses them.  They know more line boundaries and more
white space than Rust's `str::lines` and `str::trim` do, so what one side writes is not always what
the other reads.

`splitLines` is given the characters that end a line as a predicate, and `\r\n` counts as one end.  What
is proved is only what the client's two parsers need: a text put together from lines that contain no
such character falls into these lines again.
-/

namespace LuksEnroll

/-- The line boundaries of `str.splitlines`. -/
def isLineBoundary (c : Char) : Bool :=
  let n := c.toNat
  (10 ≤ n && n ≤ 13) || (0x1C ≤ n && n ≤ 0x1E) || n == 0x85 || n == 0x2028 || n == 0x2029

/-- `str.isspace` of one character. -/
def isPySpace (c : Char) : Bool := isWhiteSpace c || (0x1C ≤ c.toNat && c.toNat ≤ 0x1F)

/-- A character in front of the first line. -/
def consLine (c : Char) : List (List Char) → List (List Char)
  | [] => [[c]]
  | line :: lines => (c :: line) :: lines

/-- `str.splitlines`: `\r\n` is one boundary, and nothing follows the last. -/
def splitLines : List Char → List (List Char)
  | [] => []
  | [c] => if isLineBoundary c then [[]] else [[c]]
  | c :: d :: cs =>
      if c = '\r' ∧ d = '\n' then [] :: splitLines cs
      else if isLineBoundary c then [] :: splitLines (d :: cs)
      else consLine c (splitLines (d :: cs))

/-- `str.strip`. -/
def strip (cs : List Char) : List Char :=
  ((cs.dropWhile isPySpace).reverse.dropWhile isPySpace).reverse

/-- A character that is no boundary belongs to the first line. -/
lemma splitLines_cons {c : Char} (hc : isLineBoundary c = false) (cs : List Char) :
    splitLines (c :: cs) = consLine c (splitLines cs) := by
  cases cs with
  | nil => simp [splitLines, hc, consLine]
  | cons d cs =>
      have hcr : c ≠ '\r' := by
        rintro rfl
        exact absurd hc (by decide)
      simp [splitLines, hc, hcr]

lemma splitLines_of_notBoundary {cs : List Char} (hne : cs ≠ [])
    (hcs : ∀ c ∈ cs, isLineBoundary c = false) : splitLines cs = [cs] := by
  induction cs with
  | nil => exact absurd rfl hne
  | cons c cs ih =>
      rw [splitLines_cons (hcs c (by simp))]
      cases cs with
      | nil => rfl
      | cons d cs =>
          rw [ih (by simp) fun e he => hcs e (by simp [he])]
          rfl

lemma splitLines_append {line : List Char} (hline : ∀ c ∈ line, isLineBoundary c = false)
    (rest : List Char) : splitLines (line ++ '\n' :: rest) = line :: splitLines rest := by
  induction line with
  | nil =>
      cases rest with
      | nil => simp [splitLines, isLineBoundary]
      | cons d rest => simp [splitLines, isLineBoundary]
  | cons c line ih =>
      rw [List.cons_append, splitLines_cons (hline c (by simp)), ih fun e he => hline e (by simp [he])]
      rfl

/-- Nothing is stripped where there is no white space. -/
lemma strip_of_notSpace {cs : List Char} (hcs : ∀ c ∈ cs, isPySpace c = false) : strip cs = cs := by
  have hdrop : ∀ l : List Char, (∀ c ∈ l, isPySpace c = false) → l.dropWhile isPySpace = l := by
    intro l hl
    cases l with
    | nil => rfl
    | cons c l => rw [List.dropWhile_cons_of_neg (by simp [hl c (by simp)])]
  rw [strip, hdrop _ hcs, hdrop _ (by simpa using hcs), List.reverse_reverse]

end LuksEnroll
