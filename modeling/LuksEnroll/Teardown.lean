import LuksEnroll.Library.Sorting
import LuksEnroll.Mounts
import LuksEnroll.Service

/-!
# Closing by descriptor

A descriptor names a file, not a mapping.  The service looks at what the kernel recorded when loop
devices were attached, takes the loop devices over that file, and of the device-mapper devices that
hold them those with a LUKS uuid.  The names are sorted, and the mappings are taken down one after
another until one refuses.

`close_volume_fd_exact` says what that comes to for every set of loop devices: the mappings over the
file are taken down, in order, as far as the loop gets, and the answer tells how far.  `TearsDown` is
what can happen to one mapping, `TornDown` what the loop makes of it.

`Ends` runs a program on a sequence of inputs and keeps a log of the mappings it takes down, so that the
loop is an induction over the names with one lemma for each round.
-/

namespace LuksEnroll

open Library
open Prog (after answers)

/-! ## Which mappings lie over a file

The snapshot of loop devices, and what of it is over one file.  A status query is truthful here, and
everything else may fail.
-/

/-- A device-mapper device that holds a loop device open. -/
structure DmHolder where
  dmUuid : String
  dmName : String

/-- An attached loop device: the file behind it, and what holds it. -/
structure LoopSnapshot where
  backingDev : ℕ
  backingIno : ℕ
  holders : List DmHolder

/-- `dm_uuid.starts_with("CRYPT-LUKS")`. -/
def DmHolder.isLuks (h : DmHolder) : Bool := "CRYPT-LUKS".toList.isPrefixOf h.dmUuid.toList

/-- `crypt_mappings_backed_by`: sorted, and each name once. -/
def cryptMappingsBackedBy (dev ino : ℕ) (loops : List LoopSnapshot) : List String :=
  sortDedup (((loops.filter fun l => decide (l.backingDev = dev ∧ l.backingIno = ino)).flatMap
    LoopSnapshot.holders |>.filter DmHolder.isLuks).map DmHolder.dmName)

/-- `deactivate_volumes_backed_by`. -/
def deactivateVolumesBackedBy (dev ino : ℕ) (loops : List LoopSnapshot) : Op (List String) := do
  let names := cryptMappingsBackedBy dev ino loops
  deactivateVolumes names
  return names

/-- `op_close_volume_fd`, with the loop devices as `snapshot_loop_devices` finds them. -/
def opCloseVolumeFd (dev ino : ℕ) (loops : List LoopSnapshot) : Op (Bool × String × String) := do
  match ← (deactivateVolumesBackedBy dev ino loops).attempt with
  | Except.ok names => return (true, String.intercalate " " names, "")
  | Except.error e => return (false, "", e)

/-- A status query does not fail. -/
def truthful : Cmd → Oracle → Oracle
  | Cmd.status _, o => { o with fault := none }
  | _, o => o

/-- The world with status queries that are answered as the mappings stand. -/
def execTruthful : Handler Cmd Reply Oracle World := fun c o w => exec none c (truthful c o) w


/-- The mapping that a command deactivates. -/
def Cmd.deactivates : Cmd → Option String
  | Cmd.deactivate name => some name
  | _ => none

/-- The mappings that a run has tried to deactivate, in order. -/
def triedDown (log : List (Answered Cmd Reply)) : List String :=
  log.filterMap fun e => e.1.deactivates

/-- The node of a device-mapper device. -/
def dmNode (n : ℕ) : String := "/dev/dm-" ++ toString n

/-- A mount of the mapping in the table, in one of its two spellings: the mapping's path, or the node
that the path resolves to. -/
def Mounted (fs : FileSystem) (table : List Mount) (name : String) : Prop :=
  ∃ m ∈ table, m.source = mapperPath name
    ∨ ∃ n, fs.canonicalize (mapperPath name) = some (dmNode n) ∧ m.source = dmNode n

/-! ## What a run tries

Runs with a log of the names that a deactivation was tried for.
-/

/-- A run ends so: the outcome, the world after it, and the deactivations it tried. -/
def Ends {α : Type} (p : Op α) (os : ℕ → Oracle) (w : World)
    (Q : Except String α → World → List String → Prop) : Prop :=
  Q (p.run execTruthful os w).1 (p.run execTruthful os w).2 (triedDown (p.answers execTruthful os w))

section

variable {α β : Type} {os : ℕ → Oracle} {w w' : World}

/-- A command, with the mapping it takes down at the front of the log. -/
lemma ends_call {c : Cmd} {k : Reply c → Op α} {Q : Except String α → World → List String → Prop} :
    Ends (Prog.call c k) os w Q
      ↔ Ends (k (execTruthful c (os 0) w).1) (fun n => os (n + 1)) (execTruthful c (os 0) w).2
          fun x w' log => Q x w' (c.deactivates.toList ++ log) := by
  rw [Ends, Ends, triedDown, Prog.answers, List.filterMap_cons]
  cases c.deactivates with
  | none => exact Iff.rfl
  | some name => exact Iff.rfl

lemma ends_ask {c : Cmd} {k : Reply c → Op α} {Q : Except String α → World → List String → Prop} :
    Ends ((ask c).bind k) os w Q
      ↔ Ends (k (execTruthful c (os 0) w).1) (fun n => os (n + 1)) (execTruthful c (os 0) w).2
          fun x w' log => Q x w' (c.deactivates.toList ++ log) := ends_call

lemma Ends.mono {p : Op α} {Q Q' : Except String α → World → List String → Prop}
    (h : Ends p os w Q) (hQ : ∀ x w' log, Q x w' log → Q' x w' log) : Ends p os w Q' := hQ _ _ _ h

lemma ends_attempt {p : Op α} {Q : Except String (Except String α) → World → List String → Prop} :
    Ends p.attempt os w Q ↔ Ends p os w fun x w' log => Q (Except.ok x) w' log := by
  rw [Ends, Ends, Prog.run_attempt, Prog.answers_attempt]

lemma ends_mapErr {p : Op α} {f : String → String}
    {Q : Except String α → World → List String → Prop} :
    Ends (p.mapErr f) os w Q ↔ Ends p os w fun x w' log => Q (x.mapError f) w' log := by
  rw [Ends, Ends, Prog.run_mapErr, Prog.answers_mapErr]

/-- The sequencing rule: what the second part tries comes after what the first has tried. -/
lemma ends_bind {p : Op α} {f : α → Op β} {Q : Except String β → World → List String → Prop}
    (h : Ends p os w fun x w' log =>
      (∀ a, x = Except.ok a → ∀ os', Ends (f a) os' w' fun y w'' log' => Q y w'' (log ++ log'))
        ∧ ∀ e, x = Except.error e → Q (Except.error e) w' log) :
    Ends (p.bind f) os w Q := by
  obtain ⟨hok, herror⟩ := h
  cases hout : (p.run execTruthful os w).1 with
  | ok a =>
      have hp : p.run execTruthful os w = (Except.ok a, _) := Prod.ext hout rfl
      rw [Ends, Prog.run_bind_ok hp, Prog.answers_bind_ok hp, triedDown, List.filterMap_append]
      exact hok a hout _
  | error e =>
      have hp : p.run execTruthful os w = (Except.error e, _) := Prod.ext hout rfl
      rw [Ends, Prog.run_bind_error hp, Prog.answers_bind_error hp]
      exact herror e hout

end

/-! ## One mapping

A mapping is looked at, refused if it is mounted, and taken down.
-/

/-- What taking down one mapping can come to: how it ends, the world after it, and the
deactivations it tried. -/
inductive TearsDown (table : List Mount) (name : String) (w : World) :
    Except String Unit → World → List String → Prop
  | refused (e : String) (t : ℕ) : TearsDown table name w (Except.error e) { w with now := t } []
  | absent (t : ℕ) (hvalid : validMapperName name = true) (habsent : w.mappings name = none) :
      TearsDown table name w (Except.ok ()) { w with now := t } []
  | failed (e : String) (t : ℕ) (hfree : ¬ Mounted w.fs table name) :
      TearsDown table name w (Except.error e) { w with now := t } [name]
  | down (t : ℕ) (hvalid : validMapperName name = true) (hfree : ¬ Mounted w.fs table name) :
      TearsDown table name w (Except.ok ())
        { w with now := t, mappings := Function.update w.mappings name none } [name]


section

variable {table : List Mount} {name : String} {w : World}

/-- The name of a node has nothing to escape. -/
lemma dmNode_plain (n : ℕ) : ∀ c ∈ (dmNode n).toList, isMangled c = false := by
  intro c hc
  rw [dmNode, String.toList_append, List.mem_append, Nat.toString_eq_repr, Nat.toList_repr] at hc
  rcases hc with hc | hc
  · exact not_mangled (l := "/dev/dm-".toList) rfl c hc
  · have hdigit := Nat.isDigit_of_mem_toDigits (by omega) (by omega) hc
    simp only [isMangled, Bool.or_eq_false_iff, beq_eq_false_iff_ne]
    refine ⟨⟨⟨?_, ?_⟩, ?_⟩, ?_⟩ <;>
    · rintro rfl
      exact absurd hdigit (by decide)

lemma mountsReference_of_mounted (hvalid : validMapperName name = true)
    (hmounted : Mounted w.fs table name) :
    mountsReference (renderMounts table) (mapperPath name)
      (w.fs.canonicalize (mapperPath name)) = true := by
  obtain ⟨m, hm, hsource⟩ := hmounted
  rw [mountsReference_render, List.any_eq_true]
  refine ⟨m, hm, decide_eq_true ?_⟩
  rcases hsource with hsource | ⟨n, hnode, hsource⟩
  · rw [hsource, mangled_of_plain (mapperPath_plain hvalid), String.ofList_toList]
    exact Or.inl rfl
  · rw [hsource, mangled_of_plain (dmNode_plain n), String.ofList_toList]
    exact Or.inr hnode

/-- Whether a mapping is mounted is read off the table, without changing anything. -/
lemma mappingIsMounted_ends (htable : w.fs.text "/proc/mounts" = some (renderMounts table))
    (os : ℕ → Oracle) :
    Ends (mappingIsMounted name) os w fun x w' log =>
      x = Except.ok (mountsReference (renderMounts table) (mapperPath name)
        (w.fs.canonicalize (mapperPath name))) ∧ (∃ t, w' = { w with now := t }) ∧ log = [] := by
  refine ends_ask.mpr (ends_ask.mpr ?_)
  simp only [execTruthful, exec, truthful, answer, htable]
  exact ⟨rfl, ⟨_, rfl⟩, rfl⟩

/-- The two calls of `deactivate_volume` that take an active mapping down. -/
def takeDown (name : String) : Op Unit := do
  orFail (← ask (Cmd.initByName name)) fun e => "crypt_init_by_name failed: " ++ e
  orFail (← ask (Cmd.deactivate name)) fun e => "crypt_deactivate failed: " ++ e

/-- A mapping that is there and is not mounted is taken down, or fails to be. -/
lemma takeDown_tearsDown {m : Mapping} (hactive : w.mappings name = some m)
    (hvalid : validMapperName name = true) (hfree : ¬ Mounted w.fs table name) (t : ℕ)
    (os : ℕ → Oracle) :
    Ends (takeDown name) os { w with now := t } (TearsDown table name w) := by
  refine ends_ask.mpr ?_
  cases hinit : (os 0).fault with
  | some e =>
      simp only [execTruthful, exec, truthful, answer, hactive, Option.isSome_some, if_true,
        Oracle.unlessFault, hinit]
      exact TearsDown.refused _ _
  | none =>
      simp only [execTruthful, exec, truthful, answer, hactive, Option.isSome_some, if_true,
        Oracle.unlessFault, hinit]
      refine ends_ask.mpr ?_
      cases hdown : (os 1).fault with
      | some e =>
          simp only [execTruthful, exec, truthful, answer, Oracle.unlessFault, hdown]
          exact TearsDown.failed _ _ hfree
      | none =>
          simp only [execTruthful, exec, truthful, answer, Oracle.unlessFault, hdown]
          exact TearsDown.down _ hvalid hfree

/-- **One mapping**: it is taken down, or it stands as it stood. -/
lemma deactivateVolume_tearsDown (htable : w.fs.text "/proc/mounts" = some (renderMounts table))
    (os : ℕ → Oracle) : Ends (deactivateVolume name) os w (TearsDown table name w) := by
  rw [deactivateVolume]
  split_ifs with hvalid
  · refine ends_ask.mpr ?_
    cases hactive : w.mappings name with
    | none =>
        simp only [execTruthful, exec, truthful, answer, hactive]
        exact TearsDown.absent _ hvalid hactive
    | some m =>
        simp only [execTruthful, exec, truthful, answer, hactive, Option.isSome_some,
          Option.isNone_none, Bool.and_self, if_true]
        have hlater : ({ w with now := w.now + (os 0).elapsed } : World).fs.text "/proc/mounts"
            = some (renderMounts table) := htable
        refine ends_bind ((mappingIsMounted_ends hlater _).mono ?_)
        rintro x w' log ⟨rfl, ⟨t, rfl⟩, rfl⟩
        refine ⟨fun mounted hx os' => ?_, fun e he => by cases he⟩
        obtain rfl := Except.ok.inj hx
        cases hmounted : mountsReference (renderMounts table) (mapperPath name)
            (w.fs.canonicalize (mapperPath name)) with
        | true => exact TearsDown.refused _ _
        | false =>
            refine takeDown_tearsDown hactive hvalid (fun h => ?_) _ _
            rw [mountsReference_of_mounted hvalid h] at hmounted
            cases hmounted
  · exact TearsDown.refused _ w.now

/-- Either way only the mapping can have changed, and a deactivation is tried at most once, on a
mapping that is not mounted. -/
lemma TearsDown.frame {x : Except String Unit} {w' : World} {log : List String}
    (h : TearsDown table name w x w' log) :
    w' = { w with now := w'.now, mappings := w'.mappings } ∧ log.Sublist [name]
      ∧ ∀ n ∈ log, ¬ Mounted w.fs table n := by
  cases h with
  | refused e t => exact ⟨rfl, List.nil_sublist _, by simp⟩
  | absent t hvalid habsent => exact ⟨rfl, List.nil_sublist _, by simp⟩
  | failed e t hfree => exact ⟨rfl, List.Sublist.refl _, by simpa using hfree⟩
  | down t hvalid hfree => exact ⟨rfl, List.Sublist.refl _, by simpa using hfree⟩

/-- A mapping that was not there counts as taken down. -/
lemma TearsDown.of_ok {w' : World} {log : List String}
    (h : TearsDown table name w (Except.ok ()) w' log) :
    validMapperName name = true ∧ w'.mappings = Function.update w.mappings name none := by
  cases h with
  | absent t hvalid habsent => exact ⟨hvalid, by rw [← habsent, Function.update_eq_self]⟩
  | down t hvalid hfree => exact ⟨hvalid, rfl⟩

/-- One that fails leaves the mappings as they were. -/
lemma TearsDown.of_error {e : String} {w' : World} {log : List String}
    (h : TearsDown table name w (Except.error e) w' log) : w'.mappings = w.mappings := by
  cases h with
  | refused e t => rfl
  | failed e t hfree => rfl

/-! ## One after another

By induction on the names: the loop stops at the first that refuses.
-/

/-- What the loop over the mappings comes to.  Those in front are taken down; then none is left, or the
loop stops with the next one's name before its error. -/
structure TornDown (table : List Mount) (names : List String) (w : World) (x : Except String Unit)
    (w' : World) (log : List String) : Prop where
  frame : w' = { w with now := w'.now, mappings := w'.mappings }
  log_sublist : log.Sublist names
  log_free : ∀ name ∈ log, ¬ Mounted w.fs table name
  split : ∃ done rest, names = done ++ rest ∧ (∀ name ∈ done, validMapperName name = true)
    ∧ (w'.mappings = fun name => if name ∈ done then none else w.mappings name)
    ∧ (rest = [] ∧ x = Except.ok ()
      ∨ ∃ name rest' e, rest = name :: rest' ∧ x = Except.error (name ++ ": " ++ e))

lemma tornDown_nil : TornDown table [] w (Except.ok ()) w [] where
  frame := rfl
  log_sublist := List.Sublist.refl _
  log_free := by simp
  split := ⟨[], [], rfl, by simp, by simp, Or.inl ⟨rfl, rfl⟩⟩

/-- The loop goes on after a mapping that is taken down. -/
lemma TearsDown.cons {names : List String} {w₁ w' : World} {x : Except String Unit}
    {log log' : List String} (h : TearsDown table name w (Except.ok ()) w₁ log)
    (hrest : TornDown table names w₁ x w' log') :
    TornDown table (name :: names) w x w' (log ++ log') := by
  obtain ⟨hframe, hsub, hfree⟩ := h.frame
  obtain ⟨hvalid, hdown⟩ := h.of_ok
  have hfs : w₁.fs = w.fs := by rw [hframe]
  obtain ⟨done, rest, hsplit, hdone, hmappings, hend⟩ := hrest.split
  refine ⟨?_, hsub.append hrest.log_sublist, fun n hn => ?_,
    name :: done, rest, by rw [hsplit, List.cons_append], fun n hn => ?_, ?_, hend⟩
  · rw [hrest.frame, hframe]
  · rcases List.mem_append.mp hn with hn | hn
    · exact hfree n hn
    · rw [← hfs]
      exact hrest.log_free n hn
  · rcases List.mem_cons.mp hn with rfl | hn
    · exact hvalid
    · exact hdone n hn
  · rw [hmappings, hdown]
    funext n
    by_cases hn : n = name
    · simp [hn]
    · simp [hn]

/-- The loop stops at a mapping that is not taken down. -/
lemma TearsDown.stop {names : List String} {w' : World} {e : String} {log : List String}
    (h : TearsDown table name w (Except.error e) w' log) :
    TornDown table (name :: names) w (Except.error (name ++ ": " ++ e)) w' log := by
  obtain ⟨hframe, hsub, hfree⟩ := h.frame
  refine ⟨hframe, hsub.trans (by simp), hfree, [], name :: names, rfl, by simp, ?_,
    Or.inr ⟨name, names, e, rfl, rfl⟩⟩
  rw [h.of_error]
  simp

/-- A loop that ends well has taken all of them down. -/
lemma TornDown.of_ok {names : List String} {w' : World} {log : List String}
    (h : TornDown table names w (Except.ok ()) w' log) :
    (∀ n ∈ names, validMapperName n = true)
      ∧ ∀ n, w'.mappings n = if n ∈ names then none else w.mappings n := by
  obtain ⟨done, rest, rfl, hdone, hmappings, ⟨rfl, -⟩ | ⟨n, rest', e, -, he⟩⟩ := h.split
  · rw [List.append_nil]
    exact ⟨hdone, congrFun hmappings⟩
  · cases he

/-- The loop fails at one name, having taken down those before it. -/
lemma TornDown.of_error {names : List String} {e : String} {w' : World} {log : List String}
    (h : TornDown table names w (Except.error e) w' log) :
    ∃ done n rest cause, names = done ++ n :: rest
      ∧ (∀ m, w'.mappings m = if m ∈ done then none else w.mappings m) ∧ e = n ++ ": " ++ cause := by
  obtain ⟨done, rest, rfl, -, hmappings, ⟨-, hok⟩ | ⟨n, rest', cause, rfl, he⟩⟩ := h.split
  · cases hok
  · exact ⟨done, n, rest', cause, rfl, congrFun hmappings, Except.error.inj he⟩

/-- **The loop.** -/
theorem deactivateVolumes_tornDown (htable : w.fs.text "/proc/mounts" = some (renderMounts table))
    (names : List String) (os : ℕ → Oracle) :
    Ends (deactivateVolumes names) os w (TornDown table names w) := by
  induction names generalizing w os with
  | nil => exact tornDown_nil
  | cons name names ih =>
      refine ends_bind (ends_mapErr.mpr ((deactivateVolume_tearsDown htable os).mono ?_))
      intro x w₁ log hone
      cases x with
      | error e =>
          refine ⟨nofun, fun e' he => ?_⟩
          obtain rfl := Except.error.inj he
          exact hone.stop
      | ok u =>
          have hfs : w₁.fs = w.fs := by rw [hone.frame.1]
          rw [← hfs] at htable
          exact ⟨fun _ _ os' => (ih htable os').mono fun _ _ _ hrest => hone.cons hrest, nofun⟩

end

/-! ## The mappings over a file

What the snapshot says is what there is, as long as it is consistent with the mappings.
-/

/-- A mapping of this name is held, as a LUKS mapping, over a loop device backed by the file. -/
def Backed (dev ino : ℕ) (loops : List LoopSnapshot) (name : String) : Prop :=
  ∃ l ∈ loops, l.backingDev = dev ∧ l.backingIno = ino
    ∧ ∃ h ∈ l.holders, "CRYPT-LUKS".toList <+: h.dmUuid.toList ∧ h.dmName = name

/-- What holds a loop device as a LUKS mapping is an active mapping. -/
def Consistent (loops : List LoopSnapshot) (w : World) : Prop :=
  ∀ l ∈ loops, ∀ h ∈ l.holders, "CRYPT-LUKS".toList <+: h.dmUuid.toList →
    (w.mappings h.dmName).isSome

lemma Consistent.isSome {loops : List LoopSnapshot} {w : World} (h : Consistent loops w)
    {dev ino : ℕ} {name : String} (hname : Backed dev ino loops name) :
    (w.mappings name).isSome := by
  obtain ⟨l, hl, -, -, holder, hholder, huuid, rfl⟩ := hname
  exact h l hl holder hholder huuid

section

variable {dev ino : ℕ} {loops : List LoopSnapshot}

/-- The names are those of the mappings over the file. -/
lemma mem_cryptMappingsBackedBy {name : String} :
    name ∈ cryptMappingsBackedBy dev ino loops ↔ Backed dev ino loops name := by
  rw [cryptMappingsBackedBy, mem_sortDedup]
  simp only [List.mem_map, List.mem_filter, List.mem_flatMap, decide_eq_true_eq, DmHolder.isLuks,
    List.isPrefixOf_iff_prefix, Backed]
  constructor
  · rintro ⟨h, ⟨⟨l, ⟨hl, hdev, hino⟩, hh⟩, huuid⟩, rfl⟩
    exact ⟨l, hl, hdev, hino, h, hh, huuid, rfl⟩
  · rintro ⟨l, hl, hdev, hino, h, hh, huuid, rfl⟩
    exact ⟨h, ⟨⟨l, ⟨hl, hdev, hino⟩, hh⟩, huuid⟩, rfl⟩

/-- In a strictly increasing list, what comes before an element is what is smaller. -/
lemma mem_front_iff {done rest : List String} {name : String}
    (hstrict : (done ++ name :: rest).Pairwise (· < ·)) (m : String) :
    m ∈ done ↔ m ∈ done ++ name :: rest ∧ m < name := by
  rw [List.pairwise_append, List.pairwise_cons] at hstrict
  obtain ⟨-, ⟨hrest, -⟩, hcross⟩ := hstrict
  constructor
  · intro hm
    exact ⟨List.mem_append_left _ hm, hcross m hm name (by simp)⟩
  · rintro ⟨hm, hlt⟩
    rcases List.mem_append.mp hm with hm | hm
    · exact hm
    · rcases List.mem_cons.mp hm with rfl | hm
      · exact absurd hlt (lt_irrefl _)
      · exact absurd (hlt.trans (hrest m hm)) (lt_irrefl _)

end

/-! ## The answer

The names that the answer lists are those that were taken down.
-/

/-- The words of the `closed` field: what stands between the spaces. -/
def closedNames (closed : String) : List String :=
  ((splitChar ' ' closed.toList).filter fun word => decide (word ≠ [])).map String.ofList

/-- Names that the service accepts come back. -/
lemma closedNames_join {names : List String} (hnames : ∀ name ∈ names, validMapperName name = true) :
    closedNames (String.intercalate " " names) = names := by
  have hword : ∀ word ∈ names.map String.toList, ' ' ∉ word ∧ word ≠ [] := by
    intro word hword
    obtain ⟨name, hname, rfl⟩ := List.mem_map.mp hword
    have hvalid := hnames name hname
    rw [validMapperName, Bool.and_eq_true, Bool.and_eq_true, List.all_eq_true] at hvalid
    constructor
    · intro hblank
      exact absurd (hvalid.2 _ hblank) (by decide)
    · intro hnil
      exact of_decide_eq_true hvalid.1.1 (String.toList_injective hnil)
  rw [closedNames, String.toList_intercalate]
  cases names with
  | nil => rfl
  | cons name names =>
      have hsplit : splitChar ' ' (" ".toList.intercalate ((name :: names).map String.toList))
          = (name :: names).map String.toList :=
        splitChar_intercalate (by simp) fun word h => (hword word h).1
      rw [hsplit, List.filter_eq_self.mpr fun word h => decide_eq_true (hword word h).2, List.map_map]
      have hid : String.ofList ∘ String.toList = id := funext fun _ => String.ofList_toList
      rw [hid, List.map_id]

/-- How the method ends, from how its loop ends. -/
lemma opCloseVolumeFd_ends {dev ino : ℕ} {loops : List LoopSnapshot} {os : ℕ → Oracle} {w : World}
    {Q : Except String Unit → World → List String → Prop}
    (h : Ends (deactivateVolumes (cryptMappingsBackedBy dev ino loops)) os w Q) :
    Ends (opCloseVolumeFd dev ino loops) os w fun x w' log =>
      (Q (Except.ok ()) w' log
        ∧ x = Except.ok (true, String.intercalate " " (cryptMappingsBackedBy dev ino loops), ""))
      ∨ ∃ e, Q (Except.error e) w' log ∧ x = Except.ok (false, "", e) := by
  refine ends_bind (ends_attempt.mpr (ends_bind (h.mono ?_)))
  intro x w' log hQ
  cases x with
  | ok u =>
      refine ⟨fun _ _ _ => ⟨fun out hout _ => ?_, fun e he => (by cases he)⟩, fun e he => (by cases he)⟩
      obtain rfl := Except.ok.inj hout
      exact Or.inl ⟨by simpa [triedDown, Prog.answers, Prog.run] using hQ, rfl⟩
  | error e =>
      refine ⟨fun a ha => (by cases ha), fun e' he => ⟨fun out hout _ => ?_, fun e he => (by cases he)⟩⟩
      obtain rfl := Except.error.inj he
      obtain rfl := Except.ok.inj hout
      exact Or.inr ⟨e, by simpa [triedDown, Prog.answers, Prog.run] using hQ, rfl⟩

/-- What closing the mappings over a file has to come to: how it ends, the world after it, and the
deactivations it tried. -/
structure ClosesExactly (dev ino : ℕ) (loops : List LoopSnapshot) (table : List Mount) (w : World)
    (x : Except String (Bool × String × String)) (w' : World) (log : List String) : Prop where
  /-- Nothing but mappings changes. -/
  frame : w' = { w with now := w'.now, mappings := w'.mappings }
  increasing : log.Pairwise (· < ·)
  only : ∀ name ∈ log, Backed dev ino loops name ∧ ¬ Mounted w.fs table name
  answers : ∃ ok closed err, x = Except.ok (ok, closed, err)
  /-- All of them are gone, and `closed` says which. -/
  success : ∀ closed err, x = Except.ok (true, closed, err) →
    (∀ name, Backed dev ino loops name → w'.mappings name = none)
      ∧ (∀ name, ¬ Backed dev ino loops name → w'.mappings name = w.mappings name)
      ∧ (closedNames closed).Pairwise (· < ·)
      ∧ ∀ name, name ∈ closedNames closed ↔ Backed dev ino loops name
  /-- Those before the one that the error names are gone. -/
  failure : ∀ closed err, x = Except.ok (false, closed, err) →
    ∃ name e, err = name ++ ": " ++ e ∧ Backed dev ino loops name
      ∧ (∀ m, Backed dev ino loops m ∧ m < name →
        (w.mappings m).isSome ∧ w'.mappings m = none)
      ∧ ∀ m, ¬ (Backed dev ino loops m ∧ m < name) → w'.mappings m = w.mappings m

/-- **Closing by descriptor takes down what lies over the file, and nothing else.**  For every set of
loop devices, active mappings that agree with it, and mount table: whichever deactivations fail, what
is tried are LUKS mappings over the file that are not mounted, in increasing order, each once.  If all
of it succeeds, all of them are gone and `closed` is their names; if not, those before the one in the
error are gone and every other mapping is as it was. -/
theorem close_volume_fd_exact (dev ino : ℕ) (loops : List LoopSnapshot) (w : World)
    (table : List Mount) (hconsistent : Consistent loops w)
    (htable : w.fs.text "/proc/mounts" = some (renderMounts table)) (os : ℕ → Oracle) :
    Ends (opCloseVolumeFd dev ino loops) os w (ClosesExactly dev ino loops table w) := by
  have hstrict : (cryptMappingsBackedBy dev ino loops).Pairwise (· < ·) := sortDedup_strict _
  refine (opCloseVolumeFd_ends (deactivateVolumes_tornDown htable _ os)).mono ?_
  have hlog : ∀ {x : Except String Unit} {w' : World} {log : List String},
      TornDown table (cryptMappingsBackedBy dev ino loops) w x w' log →
      log.Pairwise (· < ·) ∧ ∀ name ∈ log, Backed dev ino loops name ∧ ¬ Mounted w.fs table name := by
    intro x w' log hdown
    refine ⟨hstrict.sublist hdown.log_sublist, fun name hname => ⟨?_, hdown.log_free name hname⟩⟩
    exact mem_cryptMappingsBackedBy.mp (hdown.log_sublist.subset hname)
  rintro x w' log (⟨hdown, rfl⟩ | ⟨e, hdown, rfl⟩)
  · refine ⟨hdown.frame, (hlog hdown).1, (hlog hdown).2, ⟨_, _, _, rfl⟩, fun closed err hx => ?_,
      fun closed err hx => by simp at hx⟩
    simp only [Except.ok.injEq, Prod.mk.injEq, true_and] at hx
    obtain ⟨hnames, hmappings⟩ := hdown.of_ok
    rw [← hx.1, closedNames_join hnames]
    refine ⟨fun name hname => ?_, fun name hname => ?_, hstrict,
      fun name => mem_cryptMappingsBackedBy⟩
    · rw [hmappings, if_pos (mem_cryptMappingsBackedBy.mpr hname)]
    · rw [hmappings, if_neg fun h => hname (mem_cryptMappingsBackedBy.mp h)]
  · refine ⟨hdown.frame, (hlog hdown).1, (hlog hdown).2, ⟨_, _, _, rfl⟩,
      fun closed err hx => by simp at hx, fun closed err hx => ?_⟩
    simp only [Except.ok.injEq, Prod.mk.injEq, true_and] at hx
    obtain ⟨done, name, rest, cause, hsplit, hmappings, rfl⟩ := hdown.of_error
    rw [hsplit] at hstrict
    have hdone : ∀ m, m ∈ done ↔ Backed dev ino loops m ∧ m < name := by
      intro m
      rw [mem_front_iff hstrict, ← hsplit, mem_cryptMappingsBackedBy]
    refine ⟨name, cause, hx.2.symm, mem_cryptMappingsBackedBy.mp (by rw [hsplit]; simp),
      fun m hm => ⟨hconsistent.isSome hm.1, ?_⟩, fun m hm => ?_⟩
    · rw [hmappings, if_pos ((hdone m).mpr hm)]
    · rw [hmappings, if_neg fun h => hm ((hdone m).mp h)]

/-- One file on two loop devices: two LUKS mappings and a volume group over it. -/
def twoLoops : List LoopSnapshot :=
  [⟨5, 100, [⟨"CRYPT-LUKS2-aaaa-luks-b", "luks-b"⟩]⟩,
    ⟨5, 100, [⟨"LVM-deadbeef", "vg0-lv0"⟩, ⟨"CRYPT-LUKS2-bbbb-luks-a", "luks-a"⟩]⟩]

/-- Both mappings are active. -/
def twoMapped : World :=
  { World.start (FileSystem.ofList [] [("/proc/mounts", renderMounts twoMounts)]) fun _ => none with
    mappings := fun name => if name = "luks-a" ∨ name = "luks-b" then some ⟨0, ⟨[]⟩, 1⟩ else none }

/-- The theorem covers a file with two mappings over it. -/
theorem close_two_mappings :
    Ends (opCloseVolumeFd 5 100 twoLoops) (fun _ => Oracle.quiet) twoMapped
      (ClosesExactly 5 100 twoLoops twoMounts twoMapped) := by
  refine close_volume_fd_exact 5 100 twoLoops twoMapped twoMounts ?_ ?_ _
  · intro l hl h hh huuid
    revert l h
    simp only [twoLoops, twoMapped]
    decide
  · simp [twoMapped, World.start, FileSystem.ofList]

end LuksEnroll
