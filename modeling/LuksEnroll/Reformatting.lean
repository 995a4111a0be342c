import LuksEnroll.Client
import LuksEnroll.Descriptors
import LuksEnroll.Leftovers

/-!
# Reformatting an image file

An image file that nothing can unlock any more is "removed and recreated at the same path and size".
The client removes it first.  It asks the service for a container of whole MiB, and the service takes
between 1 and 8192 of them; what the client asks for is the old size rounded down, but at least 1.

`reformat_safe_iff` says when this ends well, with a new container of the old size or with the old file
still there: if the old file cannot be removed, or if its size is one the service takes and nothing
fails afterwards.

The page's calls are a small machine of its own on the state of a create: the size is asked for, the old
file is removed, a new one is opened, and the service is called with its descriptor.  The run of the
service is worked out for inputs that fail nothing, and step by step for one that fails.
-/

namespace LuksEnroll

open Library

/-! ## The page

The functions of the client, which may raise, on the few calls that they make.
-/

/-- Bytes in a MiB. -/
def mib : ℕ := 1024 * 1024

/-- What `ReformatImagePage` asks of the file system and of the service. -/
inductive PageCmd : Type
  | getsize (path : String)
  | remove (path : String)
  /-- `os.open(path, os.O_RDWR | os.O_CREAT | os.O_EXCL, 0o600)`. -/
  | openNew (path : String)
  /-- The D-Bus method, on the descriptor that was just opened. -/
  | createEncryptedImageFd (sizeMb : ℕ) (passphrase : String)

/-- An `OSError` is its `strerror`, a `GLib.Error` its message. -/
abbrev PageReply : PageCmd → Type
  | PageCmd.getsize _ => Option ℕ
  | PageCmd.remove _ => Except String Unit
  | PageCmd.openNew _ => Except String Unit
  | PageCmd.createEncryptedImageFd _ _ => Except String CreateAnswer

/-- A computation of the page, which may raise. -/
abbrev Page (α : Type) := Prog PageCmd PageReply Raised α

/-- `ReformatImagePage.__init__`: its `size_mb`. -/
def pageSizeMb (path : String) : Page ℕ := do
  match ← Prog.perform (PageCmd.getsize path) with
  | some size => return max 1 (size / mib)
  | none => return 1

/-- `create_encrypted_image_async`, and the reply to it.  A size that does not fit into the `i` of
`GLib.Variant("(his)", …)` makes the call fail before it is made. -/
def createEncryptedImageAsync (path : String) (sizeMb : ℕ) (passphrase : String) :
    Page (Except String CreateAnswer) := do
  match ← Prog.perform (PageCmd.openNew path) with
  | Except.error e => Prog.fail (Raised.glibError ("Could not create '" ++ path ++ "': " ++ e))
  | Except.ok _ =>
      if sizeMb ≤ 2147483647 then
        Prog.perform (PageCmd.createEncryptedImageFd sizeMb passphrase)
      else Prog.fail Raised.other

/-- `_on_create_finish`: the text that is shown. -/
def onCreateFinish : Except String CreateAnswer → String
  | Except.ok (true, _, _) => "Reformatted successfully."
  | Except.ok (false, _, error) => "Failed: " ++ error
  | Except.error e => "Failed: D-Bus error: " ++ e

/-- `_on_submit_clicked`: the text that is shown in the end. -/
def onSubmitClicked (path : String) (sizeMb : ℕ) : Page String := do
  match ← Prog.perform (PageCmd.remove path) with
  | Except.error e => return "Failed: Could not remove '" ++ path ++ "': " ++ e
  | Except.ok _ => return onCreateFinish (← createEncryptedImageAsync path sizeMb "")

/-- The page, opened and submitted. -/
def reformatImage (path : String) : Page String := do
  onSubmitClicked path (← pageSizeMb path)

/-! ## The files and the service

Removing, opening anew, and the service's handler on the descriptor that was opened.
-/

/-- `os.remove`: the name is gone, and so are the other spellings of it. -/
def FileSystem.remove (fs : FileSystem) (path : String) (gone : String → Bool) : FileSystem where
  node := fun p => if p = path ∨ gone p then none else fs.node p
  canonicalize := fun p =>
    if p = path ∨ gone p then none
    else (fs.canonicalize p).filter fun q => !decide (q = path) && !gone q
  kind := fs.kind
  uid := fs.uid
  text := fs.text
  next := fs.next
  node_lt := fun p i hi => by
    split_ifs at hi
    exact fs.node_lt p i hi
  canonicalize_node := fun p q hq => by
    split_ifs at hq with hp
    obtain ⟨hq, hkept⟩ := Option.filter_eq_some_iff.mp hq
    have hq' : ¬ (q = path ∨ gone q) := by simpa using hkept
    rw [if_neg hp, if_neg hq']
    exact fs.canonicalize_node p q hq

/-- What becomes of the D-Bus call: it does not get to the handler, or the handler runs, and its reply
may be lost. -/
inductive CreateCall : Type
  | refused (message : String)
  | handled (who : ℕ) (os : ℕ → Oracle) (lost : Option String) (wording : SvcError → String)

/-- What the calls of the page meet with.  `fd` is the number that the service has for the descriptor. -/
structure PageInput where
  getsizeFails : Bool
  removeFails : Option String
  gone : String → Bool
  openFails : Option String
  aliases : String → Bool
  fd : ℕ
  call : CreateCall

/-- A descriptor for reading and writing has none of the bits of a path. -/
lemma oRdwr_path_bits : oRdwr &&& oPath ≠ 0#32 → oRdwr &&& oAccmode = oRdonly := fun h => absurd rfl h

/-- A regular file, open for reading and writing. -/
def newFd : Descriptor where
  mode := 0x8180#32
  flags := oRdwr
  path_bits := oRdwr_path_bits

/-- The file at a path is removed. -/
def Creating.removed (s : Creating) (path : String) (gone : String → Bool) : Creating :=
  { s with world := { s.world with fs := s.world.fs.remove path gone } }

/-- A new and empty file. -/
def Creating.newFile (s : Creating) (path : String) (aliases : String → Bool) : Creating where
  world := { s.world with
    fs := s.world.fs.create path FileKind.regular aliases
    luks := Function.update s.world.luks s.world.fs.next none }
  size := Function.update s.size s.world.fs.next 0
  made := Function.update s.made s.world.fs.next none

/-- `os.remove`. -/
def PageInput.remove (e : PageInput) (path : String) (s : Creating) : Except String Unit × Creating :=
  match e.removeFails with
  | some m => (Except.error m, s)
  | none =>
      if s.world.fs.pathExists path then (Except.ok (), s.removed path e.gone)
      else (Except.error "No such file or directory", s)

/-- `os.open`; the service has a path to the file as well. -/
def PageInput.openNew (e : PageInput) (path : String) (s : Creating) : Except String Unit × Creating :=
  match e.openFails with
  | some m => (Except.error m, s)
  | none =>
      if s.world.fs.pathExists path then (Except.error "File exists", s)
      else (Except.ok (), s.newFile path fun p => e.aliases p || p == fdPath e.fd)

/-- The handler's run. -/
def handleCreate (fd who : ℕ) (os : ℕ → Oracle) (sizeMb : ℕ) (passphrase : String) (s : Creating) :
    Except SvcError CreateAnswer × Creating :=
  (CreateRequest.fd newFd (fdPath fd) sizeMb passphrase).body.run (createExec who) os s

/-- The create as the page sees it: refused, or handled by the service. -/
def PageInput.create (e : PageInput) (sizeMb : ℕ) (passphrase : String) (s : Creating) :
    Except String CreateAnswer × Creating :=
  match e.call with
  | CreateCall.refused message => (Except.error message, s)
  | CreateCall.handled who os lost wording =>
      (lost.elim ((handleCreate e.fd who os sizeMb passphrase s).1.mapError wording) Except.error,
        (handleCreate e.fd who os sizeMb passphrase s).2)

/-- The answers to the page, and what its calls do. -/
def pageExec : Handler PageCmd PageReply PageInput Creating
  | PageCmd.getsize path, e, s =>
      (if e.getsizeFails then none else (s.world.fs.node path).map s.size, s)
  | PageCmd.remove path, e, s => e.remove path s
  | PageCmd.openNew path, e, s => e.openNew path s
  | PageCmd.createEncryptedImageFd sizeMb passphrase, e, s => e.create sizeMb passphrase s

/-! ## Statements

What ends well: a new container of the old size, or the old file in its place.
-/

/-- The old file is there as it was. -/
structure InPlace (path : String) (i : ℕ) (s t : Creating) : Prop where
  node : t.world.fs.node path = some i
  size : t.size i = s.size i
  luks : t.world.luks i = s.world.luks i

/-- A container of this size that a request has made. -/
def FreshContainer (path : String) (size : ℕ) (t : Creating) : Prop :=
  ∃ j who h, t.world.fs.node path = some j ∧ t.size j = size ∧ t.made j = some (who, h)
    ∧ t.world.luks j = some h

/-- After a reformat: a new container of the old size, or the old file. -/
def Reformatted (path : String) (i : ℕ) (s t : Creating) : Prop :=
  InPlace path i s t ∨ FreshContainer path (s.size i) t

/-- The call gets to the handler, and there nothing fails.  The third call of the handler takes random
bytes, which does not fail. -/
def CreateCall.Served : CreateCall → Prop
  | refused _ => False
  | handled _ os _ _ => ∀ n < 5, n ≠ 2 → (os n).fault = none

/-- The old size is one that the client gets right and that the service takes, and nothing fails once
the old file is gone. -/
structure Recreates (size : ℕ) (e : PageInput) : Prop where
  size : ∃ k, 1 ≤ k ∧ k ≤ 8192 ∧ size = k * mib ∧ (e.getsizeFails = false ∨ k = 1)
  opens : e.openFails = none
  served : e.call.Served

/-! ## The handler on a new file

The handler is run call by call.  It makes a container if and only if every call of this run is
answered well.
-/

section

variable {who j : ℕ} {device : String} {os : ℕ → Oracle} {s : Creating}

lemma run_lift {α : Type} (p : Op α) (os : ℕ → Oracle) (s : Creating) :
    (lift p).run (createExec who) os s
      = ((p.run (opExec who) os s).1.mapError SvcError.failed, (p.run (opExec who) os s).2) := by
  induction p generalizing os s with
  | ret a => rfl
  | fail e => rfl
  | call c k ih => exact ih _ _ _

lemma opExec_init (hnode : s.world.fs.node device = some j) (o : Oracle) :
    opExec who (Cmd.init device) o s = (o.unlessFault (), s.later o.elapsed) := by
  have hfound : (s.later o.elapsed).world.fs.pathExists device = true := by
    simp [FileSystem.pathExists, hnode]
  simp only [opExec, createExec, Creating.answer, LuksEnroll.answer, if_pos hfound]
  rfl

/-- A format makes a header, or spoils what is there. -/
lemma opExec_format (hnode : s.world.fs.node device = some j) (vk : VolumeKey) (o : Oracle) :
    ∃ t, opExec who (Cmd.format device (some vk)) o s = (o.unlessFault (), t)
      ∧ t.world.fs = s.world.fs ∧ t.size = s.size
      ∧ (o.fault = none → ∃ h, t.made j = some (who, h) ∧ t.world.luks j = some h)
      ∧ (o.fault ≠ none → t.made j = none) := by
  have hnode' : (s.later o.elapsed).world.fs.node device = some j := hnode
  have hformats : (Cmd.format device (some vk)).FormatsAt device True := rfl
  have hfs : (opExec who (Cmd.format device (some vk)) o s).2.world.fs = s.world.fs :=
    formatsAt_fs hformats o s
  refine ⟨(opExec who (Cmd.format device (some vk)) o s).2, Prod.ext ?_ rfl, hfs, rfl, ?_, ?_⟩
  · simp only [opExec, createExec, Creating.answer, LuksEnroll.answer, World.format, hnode',
      Oracle.unlessFault]
    cases o.fault <;> rfl
  · intro hfault
    simp [opExec, createExec, Creating.answer, LuksEnroll.answer, World.format, Creating.madeAfter,
      hnode, hfault]
  · intro hfault
    obtain ⟨e, he⟩ := Option.ne_none_iff_exists'.mp hfault
    simp [opExec, createExec, Creating.answer, LuksEnroll.answer, World.format, Creating.madeAfter,
      World.lose, hnode, he]

/-- What a request leaves of the object `j`: if all went well a container of this size, and otherwise
nothing that a request has made. -/
structure MakesIff (ok : Prop) (who j size : ℕ) (s t : Creating) : Prop where
  fs : t.world.fs = s.world.fs
  made : ok → t.size j = size ∧ ∃ h, t.made j = some (who, h) ∧ t.world.luks j = some h
  unmade : ¬ ok → t.made j = none

/-- A command whose failure is worded, when it succeeds. -/
lemma run_ask_ok {α β : Type} {c : Cmd} {r : Reply c → Except String α} {word : String → String}
    {k : α → Op β} {a : α} (hok : r (opExec who c (os 0) s).1 = Except.ok a) :
    ((ask c).bind fun x => (orFail (r x) word).bind k).run (opExec who) os s
      = (k a).run (opExec who) (fun n => os (n + 1)) (opExec who c (os 0) s).2 := by
  show ((orFail (r (opExec who c (os 0) s).1) word).bind k).run _ _ _ = _
  rw [hok]
  rfl

lemma run_ask_error {α β : Type} {c : Cmd} {r : Reply c → Except String α} {word : String → String}
    {k : α → Op β} {e : String} (herr : r (opExec who c (os 0) s).1 = Except.error e) :
    ((ask c).bind fun x => (orFail (r x) word).bind k).run (opExec who) os s
      = (Except.error (word e), (opExec who c (os 0) s).2) := by
  show ((orFail (r (opExec who c (os 0) s).1) word).bind k).run _ _ _ = _
  rw [herr]
  rfl

/-- A call that the environment does not fail answers. -/
lemma Oracle.unlessFault_ok {α : Type} {o : Oracle} {a : α} (h : o.fault = none) :
    o.unlessFault a = Except.ok a := by
  rw [Oracle.unlessFault, h]

lemma Oracle.unlessFault_error {α : Type} {o : Oracle} {a : α} {e : String} (h : o.fault = some e) :
    o.unlessFault a = Except.error e := by
  rw [Oracle.unlessFault, h]

lemma formatLuks2Keyless_run (hnode : s.world.fs.node device = some j) (hmade : s.made j = none) :
    MakesIff ((os 1).fault = none ∧ (os 2).fault = none) who j (s.size j) s
      ((formatLuks2Keyless device KeyslotsArea.default).run (opExec who) os s).2 := by
  set vk := (os 0).random 64
  show MakesIff _ who j _ s (((ask (Cmd.init device)).bind fun r =>
    (orFail (id r) _).bind fun _ => _).run (opExec who) (fun n => os (n + 1))
      (s.later (os 0).elapsed)).2
  have hinit := @opExec_init who j device (s.later (os 0).elapsed) hnode (os 1)
  cases h₁ : (os 1).fault with
  | some e =>
      rw [Oracle.unlessFault_error h₁] at hinit
      rw [run_ask_error (congrArg Prod.fst hinit), hinit]
      exact ⟨rfl, fun h => absurd h.1 (by simp), fun _ => hmade⟩
  | none =>
      rw [Oracle.unlessFault_ok h₁] at hinit
      rw [run_ask_ok (congrArg Prod.fst hinit), hinit]
      show MakesIff _ who j _ s (((ask (Cmd.format device (some ⟨vk⟩))).bind fun r =>
        (orFail (id r) _).bind fun _ => _).run (opExec who) (fun n => os (n + 1 + 1))
          ((s.later (os 0).elapsed).later (os 1).elapsed)).2
      obtain ⟨t, hformat, hfs, hsize, hmakes, hspoils⟩ := @opExec_format who j device
        ((s.later (os 0).elapsed).later (os 1).elapsed) hnode ⟨vk⟩ (os 2)
      cases h₂ : (os 2).fault with
      | some e =>
          rw [Oracle.unlessFault_error h₂] at hformat
          rw [run_ask_error (congrArg Prod.fst hformat), hformat]
          exact ⟨hfs, fun h => absurd h.2 (by simp), fun _ => hspoils (by simp [h₂])⟩
      | none =>
          rw [Oracle.unlessFault_ok h₂] at hformat
          rw [run_ask_ok (congrArg Prod.fst hformat), hformat]
          exact ⟨hfs, fun _ => ⟨congrFun hsize j, hmakes h₂⟩, fun h => absurd ⟨rfl, rfl⟩ h⟩

/-- `op_create_image_fd` without a passphrase. -/
lemma opCreateImageFd_run (hnode : s.world.fs.node device = some j) (hmade : s.made j = none) :
    MakesIff ((os 1).fault = none ∧ (os 2).fault = none) who j (s.size j) s
      ((lift (opCreateImageFd device "")).run (createExec who) os s).2 := by
  have hstate : ((lift (opCreateImageFd device "")).run (createExec who) os s).2
      = ((formatLuks2Keyless device KeyslotsArea.default).run (opExec who) os s).2 := by
    rw [run_lift, opCreateImageFd, runCreate, Prog.bind_def, Prog.run_bind_snd (fun x os s => ?_),
      Prog.run_attempt, formatContainer, if_pos rfl, Prog.bind_def, Prog.run_bind_snd (fun _ _ _ => rfl)]
    cases x <;> rfl
  rw [hstate]
  exact formatLuks2Keyless_run hnode hmade

lemma createExec_ftruncate {size : ℕ} (hnode : s.world.fs.node device = some j) (hzero : s.size j = 0)
    (o : Oracle) :
    createExec who (CreateCmd.ftruncate device size) o s
      = (o.unlessFault (), if o.fault.isSome then s.later o.elapsed else
          ⟨(s.later o.elapsed).world, Function.update s.size j size, s.made⟩) := by
  simp only [createExec, Creating.answer, Creating.later_fs, hnode, Oracle.unlessFault]
  cases o.fault with
  | some e => rfl
  | none =>
      have hlonger : ¬ size < s.size j := by omega
      simp [Creating.truncate, Creating.later, hlonger]

lemma sizeAndCreate_run {sizeMb : ℕ} (hnode : s.world.fs.node device = some j) (hzero : s.size j = 0)
    (hmade : s.made j = none) :
    MakesIff ((os 0).fault = none ∧ (os 2).fault = none ∧ (os 3).fault = none) who j (sizeMb * mib) s
      ((sizeAndCreate device sizeMb "").run (createExec who) os s).2 := by
  have hgrow := @createExec_ftruncate who j device s ((sizeMb : ℤ).toNat * 1024 * 1024) hnode hzero
    (os 0)
  simp only [sizeAndCreate, Prog.bind_def, Prog.perform, Prog.bind, Prog.run_call, hgrow]
  cases hfault : (os 0).fault with
  | some e =>
      rw [Oracle.unlessFault_error hfault]
      exact ⟨rfl, fun h => absurd h.1 (by simp), fun _ => hmade⟩
  | none =>
      rw [Oracle.unlessFault_ok hfault]
      have hbytes : (sizeMb : ℤ).toNat * 1024 * 1024 = sizeMb * mib := by
        rw [Int.toNat_natCast, mib, Nat.mul_assoc]
      rw [hbytes]
      obtain ⟨hfs, hmakes, hleaves⟩ := @opCreateImageFd_run who j device (fun n => os (n + 1))
        ⟨(s.later (os 0).elapsed).world, Function.update s.size j (sizeMb * mib), s.made⟩ hnode hmade
      refine ⟨hfs, fun h => ?_, fun h => hleaves fun hrest => h ⟨rfl, hrest⟩⟩
      obtain ⟨hsize, hmade⟩ := hmakes h.2
      exact ⟨hsize.trans (Function.update_self ..), hmade⟩

lemma newFd_checked : newFd.checkFd true true = Except.ok () := rfl

/-- The handler looks at the file, and gives an empty one its length. -/
lemma handleCreate_looks {fd sizeMb : ℕ} (hsize : 1 ≤ sizeMb ∧ sizeMb ≤ 8192) :
    handleCreate fd who os sizeMb "" s
      = (if (createExec who (CreateCmd.fstat (fdPath fd)) (os 0) s).1 = some 0 then
          sizeAndCreate (fdPath fd) sizeMb ""
        else return (false, -1, "A file already exists at this path") : CreateOp CreateAnswer).run
          (createExec who) (fun n => os (n + 1)) (s.later (os 0).elapsed) := by
  have hlen : ¬ maxStringLen < "".utf8ByteSize := by decide
  have hrange : (1 : ℤ) ≤ sizeMb ∧ (sizeMb : ℤ) ≤ 8192 := by omega
  simp only [handleCreate, CreateRequest.body, newFd_checked, Prog.ofExcept, if_neg hlen, if_pos hrange]
  rfl

/-- The handler on a new file: it gives the file its length, and formats it. -/
lemma handleCreate_run {fd sizeMb : ℕ} (hnode : s.world.fs.node (fdPath fd) = some j)
    (hzero : s.size j = 0) (hmade : s.made j = none) :
    MakesIff (1 ≤ sizeMb ∧ sizeMb ≤ 8192 ∧ ∀ n < 5, n ≠ 2 → (os n).fault = none) who j (sizeMb * mib) s
      (handleCreate fd who os sizeMb "" s).2 := by
  by_cases hsize : 1 ≤ sizeMb ∧ sizeMb ≤ 8192
  · rw [handleCreate_looks hsize]
    cases hstat : (os 0).fault with
    | some e =>
        have hunread : (createExec who (CreateCmd.fstat (fdPath fd)) (os 0) s).1 ≠ some 0 := by
          simp [createExec, Creating.answer, hstat]
        rw [if_neg hunread]
        exact ⟨rfl, fun h => absurd (h.2.2 0 (by omega) (by omega)) (by simp [hstat]), fun _ => hmade⟩
    | none =>
        have hempty : (createExec who (CreateCmd.fstat (fdPath fd)) (os 0) s).1 = some 0 := by
          simp [createExec, Creating.answer, hstat, hnode, hzero]
        rw [if_pos hempty]
        obtain ⟨hfs, hmakes, hleaves⟩ := @sizeAndCreate_run who j (fdPath fd) (fun n => os (n + 1))
          (s.later (os 0).elapsed) sizeMb hnode hzero hmade
        refine ⟨hfs, fun h => hmakes ?_, fun h => hleaves fun hrest => h ⟨hsize.1, hsize.2, ?_⟩⟩
        · have hserved := h.2.2
          exact ⟨hserved 1 (by omega) (by omega), hserved 3 (by omega) (by omega),
            hserved 4 (by omega) (by omega)⟩
        · obtain ⟨h₁, h₃, h₄⟩ := hrest
          intro n hn htwo
          rcases (by omega : n = 0 ∨ n = 1 ∨ n = 3 ∨ n = 4) with rfl | rfl | rfl | rfl
          · exact hstat
          · exact h₁
          · exact h₃
          · exact h₄
  · have hrange : ¬ ((1 : ℤ) ≤ sizeMb ∧ (sizeMb : ℤ) ≤ 8192) := by omega
    have hlen : ¬ maxStringLen < "".utf8ByteSize := by decide
    have hrun : handleCreate fd who os sizeMb "" s
        = (Except.ok (false, -1, "size_mb must be between 1 and 8192"), s) := by
      simp only [handleCreate, CreateRequest.body, newFd_checked, Prog.ofExcept, if_neg hlen,
        if_neg hrange]
      rfl
    rw [hrun]
    exact ⟨rfl, fun h => absurd ⟨h.1, h.2.1⟩ hsize, fun _ => hmade⟩

end

/-! ## Reformatting

The page from its first call to the last, and the sizes for which that is well.
-/

section

variable {path : String} {e : PageInput} {i j size : ℕ} {s t : Creating}

/-- The size that the page asks for. -/
def askedSize (getsizeFails : Bool) (size : ℕ) : ℕ := if getsizeFails then 1 else max 1 (size / mib)

lemma askedSize_spec (b : Bool) (size : ℕ) :
    (∃ k, 1 ≤ k ∧ k ≤ 8192 ∧ size = k * mib ∧ (b = false ∨ k = 1))
      ↔ 1 ≤ askedSize b size ∧ askedSize b size ≤ 8192 ∧ askedSize b size * mib = size := by
  have hpos : 0 < mib := by decide
  constructor
  · rintro ⟨k, hlow, hhigh, rfl, hget⟩
    have hasked : askedSize b (k * mib) = k := by
      rw [askedSize, Nat.mul_div_cancel k hpos]
      cases b with
      | false => exact max_eq_right hlow
      | true =>
          obtain rfl : k = 1 := by simpa using hget
          rfl
    rw [hasked]
    exact ⟨hlow, hhigh, rfl⟩
  · rintro ⟨hlow, hhigh, hsize⟩
    refine ⟨askedSize b size, hlow, hhigh, hsize.symm, ?_⟩
    cases b with
    | false => exact Or.inl rfl
    | true => exact Or.inr rfl

/-- A name that leads to another object, or to none, is not the old file. -/
lemma not_inPlace (hne : t.world.fs.node path ≠ some i) : ¬ InPlace path i s t := fun h => hne h.node

/-- What is behind the path is a container where a request has made one. -/
lemma freshContainer_iff {ok : Prop} {who n : ℕ} (hnode : s.world.fs.node path = some j)
    (h : MakesIff ok who j n s t) : FreshContainer path size t ↔ ok ∧ n = size := by
  have hnode' : t.world.fs.node path = some j := by rw [h.fs, hnode]
  constructor
  · rintro ⟨j', who', hd, hj', hsize, hmade, -⟩
    obtain rfl : j = j' := Option.some.inj (hnode'.symm.trans hj')
    by_cases hok : ok
    · exact ⟨hok, (h.made hok).1.symm.trans hsize⟩
    · rw [h.unmade hok] at hmade
      cases hmade
  · rintro ⟨hok, rfl⟩
    obtain ⟨hsize, hd, hmade, hluks⟩ := h.made hok
    exact ⟨j, who, hd, hnode', hsize, hmade, hluks⟩

/-- Where there is no file, there is no fresh container. -/
lemma no_freshContainer (hnone : t.world.fs.node path = none) : ¬ FreshContainer path size t := by
  rintro ⟨j, who, h, hnode, -⟩
  rw [hnone] at hnode
  cases hnode

lemma create_makes {n : ℕ} (hnode : s.world.fs.node (fdPath e.fd) = some j) (hzero : s.size j = 0)
    (hmade : s.made j = none) :
    ∃ who, MakesIff (1 ≤ n ∧ n ≤ 8192 ∧ e.call.Served) who j (n * mib) s (e.create n "" s).2 := by
  rw [PageInput.create]
  cases e.call with
  | refused message => exact ⟨0, rfl, fun h => h.2.2.elim, fun _ => hmade⟩
  | handled who os lost wording => exact ⟨who, handleCreate_run hnode hzero hmade⟩

/-- The new file, which the service has a path to as well. -/
def PageInput.opened (e : PageInput) (path : String) (s : Creating) : Creating :=
  s.newFile path fun p => e.aliases p || p == fdPath e.fd

/-- The file that was opened is a new one, by both its names. -/
lemma opened_node (hnone : s.world.fs.node path = none) (hfd : s.world.fs.node (fdPath e.fd) = none) :
    (e.opened path s).world.fs.node path = some s.world.fs.next
      ∧ (e.opened path s).world.fs.node (fdPath e.fd) = some s.world.fs.next := by
  simp [PageInput.opened, Creating.newFile, FileSystem.create, hnone, hfd]

/-- The page once the old file is gone: it opens a new one, and asks for a container on it. -/
lemma createAsync_run {n : ℕ} (hnone : s.world.fs.node path = none)
    (hfd : s.world.fs.node (fdPath e.fd) = none)
    (ht : ((createEncryptedImageAsync path n "").run pageExec (fun _ => e) s).2 = t) :
    (e.openFails.isSome ∧ t = s) ∨ (e.openFails = none ∧
      ∃ who, MakesIff (1 ≤ n ∧ n ≤ 8192 ∧ e.call.Served) who s.world.fs.next (n * mib)
        (e.opened path s) t) := by
  obtain ⟨hnode, hnodeFd⟩ := opened_node hnone hfd
  have hzero : (e.opened path s).size s.world.fs.next = 0 := Function.update_self ..
  have hmade : (e.opened path s).made s.world.fs.next = none := Function.update_self ..
  have hfree : s.world.fs.pathExists path = false := by rw [FileSystem.pathExists, hnone]; rfl
  subst ht
  simp only [createEncryptedImageAsync, Prog.bind_def, Prog.perform, Prog.bind, Prog.run_call, pageExec]
  cases hopens : e.openFails with
  | some m =>
      have hopen : e.openNew path s = (Except.error m, s) := by rw [PageInput.openNew, hopens]
      simp only [hopen]
      exact Or.inl ⟨rfl, rfl⟩
  | none =>
      have hopen : e.openNew path s = (Except.ok (), e.opened path s) := by
        simp only [PageInput.openNew, hopens, hfree, PageInput.opened]
        rfl
      refine Or.inr ⟨rfl, ?_⟩
      by_cases hfits : n ≤ 2147483647
      · obtain ⟨who, hmakes⟩ := create_makes (n := n) hnodeFd hzero hmade
        simp only [hopen, if_pos hfits]
        exact ⟨who, hmakes⟩
      · simp only [hopen, if_neg hfits]
        exact ⟨0, rfl, fun h => absurd h.2.1 (by omega), fun _ => hmade⟩

lemma pageSizeMb_run (hfile : s.world.fs.node path = some i) :
    (pageSizeMb path).run pageExec (fun _ => e) s
      = (Except.ok (askedSize e.getsizeFails (s.size i)), s) := by
  simp only [pageSizeMb, Prog.bind_def, Prog.perform, Prog.bind, Prog.run_call, pageExec, hfile,
    Option.map_some, askedSize]
  cases e.getsizeFails <;> rfl

/-- The whole page: the old size is read, the old file removed, a new one made. -/
lemma reformatImage_state (hfile : s.world.fs.node path = some i) :
    ((reformatImage path).run pageExec (fun _ => e) s).2
      = if e.removeFails.isSome then s else
          ((createEncryptedImageAsync path (askedSize e.getsizeFails (s.size i)) "").run pageExec
            (fun _ => e) (s.removed path e.gone)).2 := by
  rw [reformatImage, Prog.bind_def, Prog.run_bind_ok (pageSizeMb_run hfile)]
  have hthere : s.world.fs.pathExists path = true := by rw [FileSystem.pathExists, hfile]; rfl
  simp only [onSubmitClicked, Prog.bind_def, Prog.perform, Prog.bind, Prog.run_call, pageExec]
  cases hremoves : e.removeFails with
  | some m =>
      have hremove : e.remove path s = (Except.error m, s) := by rw [PageInput.remove, hremoves]
      simp only [Prog.after, hremove]
      rfl
  | none =>
      have hremove : e.remove path s = (Except.ok (), s.removed path e.gone) := by
        simp only [PageInput.remove, hremoves, hthere]
        rfl
      simp only [Prog.after, hremove]
      exact Prog.run_bind_snd (fun _ _ _ => rfl) _ _ _

/-- **When a reformat ends well**: with the old file in place if it could not be removed, or with a new
container of its size if it is one the service takes, and nothing fails from then on. -/
theorem reformat_safe_iff (hfile : s.world.fs.node path = some i)
    (hfd : s.world.fs.node (fdPath e.fd) = none) :
    Reformatted path i s ((reformatImage path).run pageExec (fun _ => e) s).2
      ↔ e.removeFails.isSome ∨ Recreates (s.size i) e := by
  rw [reformatImage_state hfile]
  cases hremoves : e.removeFails with
  | some m =>
      have hkept : InPlace path i s s := ⟨hfile, rfl, rfl⟩
      simp [Reformatted, hkept]
  | none =>
      set n := askedSize e.getsizeFails (s.size i)
      have hlt : i < s.world.fs.next := s.world.fs.node_lt path i hfile
      have hnone : (s.removed path e.gone).world.fs.node path = none := by
        simp [Creating.removed, FileSystem.remove]
      have hfd' : (s.removed path e.gone).world.fs.node (fdPath e.fd) = none := by
        simp [Creating.removed, FileSystem.remove, hfd]
      have hasked := askedSize_spec e.getsizeFails (s.size i)
      generalize hend : ((createEncryptedImageAsync path n "").run pageExec (fun _ => e)
        (s.removed path e.gone)).2 = t
      show Reformatted path i s t ↔ _
      rcases createAsync_run hnone hfd' hend with ⟨hopens, rfl⟩ | ⟨hopens, who, hmakes⟩
      · have hgone : ¬ InPlace path i s (s.removed path e.gone) := not_inPlace (by simp [hnone])
        have hshut : ¬ Recreates (s.size i) e := fun h => by simp [h.opens] at hopens
        simp [Reformatted, hgone, hshut, no_freshContainer hnone]
      · have hnode := (opened_node (e := e) hnone hfd').1
        have hgone : ¬ InPlace path i s t := by
          refine not_inPlace ?_
          rw [hmakes.fs, hnode]
          exact fun h => absurd (Option.some.inj h) (Nat.ne_of_gt hlt)
        rw [Reformatted, or_iff_right hgone, freshContainer_iff hnode hmakes]
        constructor
        · rintro ⟨⟨hlow, hhigh, hserved⟩, hsize⟩
          exact Or.inr ⟨hasked.mpr ⟨hlow, hhigh, hsize⟩, hopens, hserved⟩
        · rintro (hfailed | hrecreates)
          · cases hfailed
          · obtain ⟨hlow, hhigh, hsize⟩ := hasked.mp hrecreates.size
            exact ⟨⟨hlow, hhigh, hrecreates.served⟩, hsize⟩

end

/-! ## An image to reformat

An image of 16 MiB, and one that is larger than what the service takes.
-/

/-- An image file of this size, and nothing else. -/
def imageOf (size : ℕ) : Creating where
  world := World.start (FileSystem.ofList [("/home/u/vault.img", FileKind.regular, 1000)] [])
    fun _ => none
  size := fun _ => size
  made := fun _ => none

/-- Nothing fails. -/
def nothingFails : PageInput where
  getsizeFails := false
  removeFails := none
  gone := fun _ => false
  openFails := none
  aliases := fun _ => false
  fd := 7
  call := CreateCall.handled 0 (fun _ => Oracle.quiet) none fun _ => ""

/-- A container of 16 MiB is made anew. -/
theorem reformat_sixteen : Reformatted "/home/u/vault.img" 0 (imageOf (16 * mib))
    ((reformatImage "/home/u/vault.img").run pageExec (fun _ => nothingFails) (imageOf (16 * mib))).2 := by
  refine (reformat_safe_iff rfl rfl).mpr (Or.inr ⟨⟨16, by decide, by decide, rfl, Or.inl rfl⟩, rfl, ?_⟩)
  exact fun _ _ _ => rfl

/-- Every reformat ends with a container of the old size, or with the old file. -/
def ReformatSafe : Prop :=
  ∀ (path : String) (e : PageInput) (i : ℕ) (s : Creating), s.world.fs.node path = some i →
    s.world.fs.node (fdPath e.fd) = none →
    Reformatted path i s ((reformatImage path).run pageExec (fun _ => e) s).2

/-- **An image of more than 8192 MiB is lost**: it is removed, and the service refuses to make one of
its size. -/
theorem large_image_lost : ¬ ReformatSafe := by
  intro h
  set t := ((reformatImage "/home/u/vault.img").run pageExec (fun _ => nothingFails)
    (imageOf (9000 * mib))).2 with ht
  have hnode : t.world.fs.node "/home/u/vault.img" = some 1 := rfl
  have hmade : t.made 1 = none := rfl
  rcases h "/home/u/vault.img" nothingFails 0 (imageOf (9000 * mib)) rfl rfl with
    hkept | ⟨j, who, d, hj, -, hfresh, -⟩
  · cases hnode.symm.trans hkept.node
  · obtain rfl : 1 = j := Option.some.inj (hnode.symm.trans hj)
    cases hmade.symm.trans hfresh

end LuksEnroll
