import LuksEnroll.Library.Chunks
import LuksEnroll.Library.Scanning
import LuksEnroll.Luks
import LuksEnroll.PyText

/-!
# Is a mapping mounted?

The kernel writes the mount table as lines of fields, and escapes in a field the characters that
would end it.  The service looks through the table before it takes a mapping down, the client to say
that a volume is mounted; each has its own parser, with its own idea of lines and of blanks.

On a table that the kernel has written both find a mount of the mapping exactly if there is one
(`mounts_reference_iff`).  Neither undoes the escapes.  That does no harm: a mapper name and a device
node have no character that is escaped, so an escaped source is never equal to them
(`mangled_eq_iff`).

A mount has any number of fields, the source first.  They are arbitrary texts that are not empty, as long
as each character is one that the kernel escapes, or no blank and no line break.
-/

namespace LuksEnroll

open Library

/-! ## The client

The client's own parser of the table.
-/

/-- `mount_references`. -/
def mountReferences (procMounts mapper : String) (dmNode : Option String) : Bool :=
  (splitLines procMounts.toList).any fun line =>
    let src := String.ofList (line.takeWhile fun c => decide (c ≠ ' '))
    decide (src ≠ "") && (decide (src = mapper)
      || dmNode.any fun d => decide (d ≠ "") && decide (src = d))

/-! ## The kernel

How a table is written: fields with blanks between them, and four characters mangled in each.
-/

/-- The characters that the kernel writes as octal escapes. -/
def isMangled (c : Char) : Bool := c == ' ' || c == '\t' || c == '\n' || c == '\\'

/-- One character of a field. -/
def mangle : Char → List Char
  | ' ' => ['\\', '0', '4', '0']
  | '\t' => ['\\', '0', '1', '1']
  | '\n' => ['\\', '0', '1', '2']
  | '\\' => ['\\', '1', '3', '4']
  | c => [c]

def mangled (field : String) : List Char := field.toList.flatMap mangle

/-- A mount: what is mounted, and the other fields of its line.  Other white space or line breaks than
those that are escaped do not occur. -/
structure Mount where
  source : String
  others : List String
  nonempty : ∀ f ∈ source :: others, f ≠ ""
  plain : ∀ f ∈ source :: others, ∀ c ∈ f.toList,
    isMangled c = true ∨ (isWhiteSpace c = false ∧ isLineBoundary c = false)

/-- The line of a mount. -/
def Mount.line (m : Mount) : List Char :=
  List.intercalate [' '] ((m.source :: m.others).map mangled)

/-- `/proc/mounts`. -/
def renderMounts (table : List Mount) : String :=
  String.ofList (table.flatMap fun m => m.line ++ ['\n'])

/-! ## Fields

A path without those characters stands for itself in the table.
-/

lemma mangle_of_not {c : Char} (hc : isMangled c = false) : mangle c = [c] := by
  simp only [isMangled, Bool.or_eq_false_iff, beq_eq_false_iff_ne] at hc
  obtain ⟨⟨⟨hblank, htab⟩, hnl⟩, hback⟩ := hc
  rw [mangle.eq_def]
  split
  · exact absurd rfl hblank
  · exact absurd rfl htab
  · exact absurd rfl hnl
  · exact absurd rfl hback
  · rfl

/-- What stands for an escaped character is four characters, the first a backslash. -/
lemma mangle_of_mangled {c : Char} (hc : isMangled c = true) :
    ∃ x y z : Char, mangle c = ['\\', x, y, z] ∧ x.isDigit = true ∧ y.isDigit = true
      ∧ z.isDigit = true := by
  simp only [isMangled, Bool.or_eq_true, beq_iff_eq] at hc
  rcases hc with ((rfl | rfl) | rfl) | rfl
  · exact ⟨_, _, _, rfl, by decide, by decide, by decide⟩
  · exact ⟨_, _, _, rfl, by decide, by decide, by decide⟩
  · exact ⟨_, _, _, rfl, by decide, by decide, by decide⟩
  · exact ⟨_, _, _, rfl, by decide, by decide, by decide⟩

/-- Nothing is escaped in a name without such characters. -/
lemma mangled_of_plain {s : String} (hs : ∀ c ∈ s.toList, isMangled c = false) :
    mangled s = s.toList := by
  have hlist : ∀ cs : List Char, (∀ c ∈ cs, isMangled c = false) → cs.flatMap mangle = cs := by
    intro cs
    induction cs with
    | nil => intro _; rfl
    | cons c cs ih =>
        intro hcs
        rw [List.flatMap_cons, mangle_of_not (hcs c (by simp)), ih fun d hd => hcs d (by simp [hd])]
        rfl
  exact hlist _ hs

/-- **Escapes cannot forge a name**: a field reads like a name without special characters only if it
is that name. -/
lemma mangled_eq_iff {field name : String} (hname : ∀ c ∈ name.toList, isMangled c = false) :
    mangled field = name.toList ↔ field = name := by
  constructor
  · intro h
    have hplain : ∀ c ∈ field.toList, isMangled c = false := by
      intro c hc
      by_contra hmangled
      rw [Bool.not_eq_false] at hmangled
      obtain ⟨x, y, z, heq, -⟩ := mangle_of_mangled hmangled
      have hback : '\\' ∈ mangled field := List.mem_flatMap.mpr ⟨c, hc, by simp [heq]⟩
      rw [h] at hback
      exact absurd (hname _ hback) (by decide)
    rw [mangled_of_plain hplain] at h
    exact String.toList_injective h
  · rintro rfl
    exact mangled_of_plain hname

/-- No blank or line break is left in a field. -/
lemma mangled_plain {field : String} (hfield : ∀ c ∈ field.toList,
    isMangled c = true ∨ (isWhiteSpace c = false ∧ isLineBoundary c = false)) :
    ∀ c ∈ mangled field, isWhiteSpace c = false ∧ isLineBoundary c = false := by
  have hdigit : ∀ c : Char, c.isDigit = true → isWhiteSpace c = false ∧ isLineBoundary c = false := by
    intro c hc
    rw [isDigit_iff] at hc
    simp only [isWhiteSpace, isLineBoundary, Bool.or_eq_false_iff, Bool.and_eq_false_iff,
      decide_eq_false_iff_not, beq_eq_false_iff_ne]
    omega
  intro c hc
  obtain ⟨d, hd, hcd⟩ := List.mem_flatMap.mp hc
  cases hm : isMangled d with
  | false =>
      rw [mangle_of_not hm, List.mem_singleton] at hcd
      rw [hcd]
      rcases hfield d hd with h | h
      · rw [hm] at h
        cases h
      · exact h
  | true =>
      obtain ⟨x, y, z, heq, hx, hy, hz⟩ := mangle_of_mangled hm
      rw [heq] at hcd
      simp only [List.mem_cons, List.not_mem_nil, or_false] at hcd
      rcases hcd with rfl | rfl | rfl | rfl
      · decide
      · exact hdigit _ hx
      · exact hdigit _ hy
      · exact hdigit _ hz

/-! ## Lines

A line is read back field by field.
-/

/-- A line is its source, followed by nothing or by a blank. -/
lemma line_eq (m : Mount) :
    ∃ rest, m.line = mangled m.source ++ rest ∧ (rest = [] ∨ ∃ rest', rest = ' ' :: rest') := by
  rw [Mount.line, List.map_cons]
  cases m.others with
  | nil => exact ⟨[], by simp, Or.inl rfl⟩
  | cons f others =>
      refine ⟨' ' :: List.intercalate [' '] ((f :: others).map mangled), ?_, Or.inr ⟨_, rfl⟩⟩
      rw [List.map_cons, List.intercalate_cons_cons, List.append_assoc, List.singleton_append]

/-- A line has no blank but the separators, and no line break. -/
lemma line_notBoundary (m : Mount) : ∀ c ∈ m.line, isLineBoundary c = false := by
  intro c hc
  rcases mem_intercalate hc with rfl | ⟨f, hf, hcf⟩
  · decide
  · obtain ⟨field, hfield, rfl⟩ := List.mem_map.mp hf
    exact (mangled_plain (m.plain field hfield) c hcf).2

lemma mangled_source_ne_nil (m : Mount) : mangled m.source ≠ [] := by
  intro h
  have hne : m.source ≠ "" := m.nonempty _ (by simp)
  have hchars : m.source.toList ≠ [] := fun hnil => hne (String.toList_injective hnil)
  obtain ⟨c, cs, hcs⟩ := List.exists_cons_of_ne_nil hchars
  rw [mangled, hcs, List.flatMap_cons, List.append_eq_nil_iff] at h
  cases hm : isMangled c with
  | false =>
      rw [mangle_of_not hm] at h
      cases h.1
  | true =>
      obtain ⟨x, y, z, heq, -⟩ := mangle_of_mangled hm
      rw [heq] at h
      cases h.1

/-- Both parsers read the source of a mount out of its line. -/
lemma firstField_line (m : Mount) : firstField m.line = mangled m.source := by
  obtain ⟨rest, hline, hrest⟩ := line_eq m
  have hplain := mangled_plain (m.plain m.source (by simp))
  obtain ⟨c, cs, hcs⟩ := List.exists_cons_of_ne_nil (mangled_source_ne_nil m)
  rw [hline, firstField, hcs, List.cons_append,
    List.dropWhile_cons_of_neg (by simp [(hplain c (by simp [hcs])).1]), ← List.cons_append, ← hcs,
    List.takeWhile_append_of_pos fun d hd => by simp [(hplain d hd).1]]
  rcases hrest with rfl | ⟨rest', rfl⟩
  · simp
  · simp [isWhiteSpace]

lemma takeWhile_line (m : Mount) : (m.line.takeWhile fun c => decide (c ≠ ' ')) = mangled m.source := by
  obtain ⟨rest, hline, hrest⟩ := line_eq m
  have hplain := mangled_plain (m.plain m.source (by simp))
  have hblank : ∀ c ∈ mangled m.source, decide (c ≠ ' ') = true := by
    intro c hc
    rw [decide_eq_true_eq]
    rintro rfl
    exact absurd (hplain _ hc).1 (by decide)
  rw [hline, List.takeWhile_append_of_pos hblank]
  rcases hrest with rfl | ⟨rest', rfl⟩
  · simp
  · simp

/-- Both see the lines that the kernel has written; the service sees an empty one at the end. -/
lemma lines_render (table : List Mount) :
    splitChar '\n' (renderMounts table).toList = table.map Mount.line ++ [[]]
      ∧ splitLines (renderMounts table).toList = table.map Mount.line := by
  rw [renderMounts, String.toList_ofList]
  induction table with
  | nil => exact ⟨rfl, rfl⟩
  | cons m table ih =>
      have hnl : '\n' ∉ m.line := fun h => absurd (line_notBoundary m _ h) (by decide)
      rw [List.flatMap_cons, List.append_assoc, List.singleton_append, splitChar_append hnl,
        splitLines_append (line_notBoundary m), ih.1, ih.2]
      exact ⟨rfl, rfl⟩

/-! ## The theorem

Both parsers find the mounts of a mapping, under both of its names.
-/

/-- The path of a mapping. -/
def mapperPath (name : String) : String := "/dev/mapper/" ++ name

lemma not_mangled {l : List Char} (h : l.any isMangled = false) : ∀ c ∈ l, isMangled c = false := by
  simpa using List.any_eq_false.mp h

lemma plain_of_all {fields : List String}
    (h : (fields.all fun f => f.toList.all fun c =>
      isMangled c || (!isWhiteSpace c && !isLineBoundary c)) = true) :
    ∀ f ∈ fields, ∀ c ∈ f.toList,
      isMangled c = true ∨ (isWhiteSpace c = false ∧ isLineBoundary c = false) := by
  intro f hf c hc
  have hfield := List.all_eq_true.mp h f hf
  simpa using List.all_eq_true.mp hfield c hc

lemma mapperPath_plain {name : String} (hname : validMapperName name = true) :
    ∀ c ∈ (mapperPath name).toList, isMangled c = false := by
  rw [validMapperName, Bool.and_eq_true, List.all_eq_true] at hname
  intro c hc
  rw [mapperPath, String.toList_append, List.mem_append] at hc
  rcases hc with hc | hc
  · exact not_mangled (l := "/dev/mapper/".toList) rfl c hc
  · have hchar := hname.2 c hc
    simp only [isMangled, Bool.or_eq_false_iff, beq_eq_false_iff_ne]
    refine ⟨⟨⟨?_, ?_⟩, ?_⟩, ?_⟩ <;>
    · rintro rfl
      exact absurd hchar (by decide)

/-- A mount of the mapping. -/
def Mount.Of (m : Mount) (name : String) (dmNode : Option String) : Prop :=
  m.source = mapperPath name ∨ dmNode = some m.source

section

variable {name : String} {dmNode : Option String}

/-- The source as it is written equals the mapping or the node exactly if the source does. -/
lemma source_of_iff (hname : validMapperName name = true)
    (hnode : ∀ d ∈ dmNode, ∀ c ∈ d.toList, isMangled c = false) (m : Mount) :
    (String.ofList (mangled m.source) = mapperPath name
        ∨ dmNode = some (String.ofList (mangled m.source))) ↔ m.Of name dmNode := by
  have hsource : ∀ s : String, (∀ c ∈ s.toList, isMangled c = false) →
      (String.ofList (mangled m.source) = s ↔ m.source = s) := by
    intro s hs
    rw [← String.toList_inj, String.toList_ofList]
    exact mangled_eq_iff hs
  refine or_congr (hsource _ (mapperPath_plain hname)) ?_
  cases dmNode with
  | none => simp
  | some d => rw [Option.some.injEq, Option.some.injEq, eq_comm, hsource d (hnode d rfl), eq_comm]

lemma mountsReference_render (table : List Mount) :
    mountsReference (renderMounts table) (mapperPath name) dmNode
      = table.any fun m => decide (String.ofList (mangled m.source) = mapperPath name
        ∨ dmNode = some (String.ofList (mangled m.source))) := by
  rw [mountsReference, (lines_render table).1, List.any_append, List.any_map]
  have hend : firstField [] = [] := rfl
  simp [firstField_line, mangled_source_ne_nil, hend, Function.comp_def]

lemma mountReferences_render (table : List Mount) :
    mountReferences (renderMounts table) (mapperPath name) dmNode
      = table.any fun m => decide (String.ofList (mangled m.source) = mapperPath name
        ∨ dmNode = some (String.ofList (mangled m.source))) := by
  rw [mountReferences, (lines_render table).2, List.any_map]
  refine congrArg table.any (funext fun m => ?_)
  have hne : String.ofList (mangled m.source) ≠ "" := by
    intro h
    exact mangled_source_ne_nil m (by simpa using congrArg String.toList h)
  simp only [Function.comp_def, takeWhile_line]
  cases dmNode with
  | none => simp [hne]
  | some d =>
      by_cases hd : d = String.ofList (mangled m.source)
      · simp [hd, hne]
      · simp [hd, hne, Ne.symm hd]

end

/-- **Both parsers find the mounts of a mapping.**  On every table that the kernel writes, for every
mapper name that the service accepts and whatever node it resolves to (as long as its path needs no
escape): the service says that the mapping is mounted exactly if a mount's source is the mapping or
that node, and the client says the same. -/
theorem mounts_reference_iff (table : List Mount) (name : String) (dmNode : Option String)
    (hname : validMapperName name = true)
    (hnode : ∀ d ∈ dmNode, ∀ c ∈ d.toList, isMangled c = false) :
    (mountsReference (renderMounts table) (mapperPath name) dmNode = true
        ↔ ∃ m ∈ table, m.Of name dmNode)
      ∧ mountReferences (renderMounts table) (mapperPath name) dmNode
        = mountsReference (renderMounts table) (mapperPath name) dmNode := by
  constructor
  · rw [mountsReference_render, List.any_eq_true]
    simp only [decide_eq_true_eq, source_of_iff hname hnode]
  · rw [mountReferences_render, mountsReference_render]

/-- A mount with a blank in its source, and one of the mapping's node. -/
def twoMounts : List Mount :=
  [⟨"//nas/my share", ["/mnt/nas", "cifs", "rw", "0", "0"], by decide, plain_of_all (by decide)⟩,
    ⟨"/dev/dm-3", ["/mnt/a b", "ext4", "rw", "0", "0"], by decide, plain_of_all (by decide)⟩]

/-- The second mount is found, also behind the first. -/
theorem mounts_reference_two :
    (mountsReference (renderMounts twoMounts) (mapperPath "luks-abc") (some "/dev/dm-3") = true
        ↔ ∃ m ∈ twoMounts, m.Of "luks-abc" (some "/dev/dm-3"))
      ∧ mountReferences (renderMounts twoMounts) (mapperPath "luks-abc") (some "/dev/dm-3")
        = mountsReference (renderMounts twoMounts) (mapperPath "luks-abc") (some "/dev/dm-3") :=
  mounts_reference_iff twoMounts "luks-abc" (some "/dev/dm-3") (by decide) (by
    rintro d hd
    obtain rfl := Option.some.inj hd
    exact not_mangled rfl)

end LuksEnroll
