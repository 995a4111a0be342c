import LuksEnroll.Creation
import LuksEnroll.DetailPage
import LuksEnroll.FreshVolume
import LuksEnroll.PyText

/-!
# The format dialogs

Three dialogs make a volume: of a removable device, as a new image file, or anew in the place of an image
file that nothing unlocks any more.  They share `FormatDialogBase`: a button that is taken while a call
is under way, and the hand-over to the detail page of the new volume when it has succeeded.

`one_volume_per_dialog` says that a dialog makes at most one volume and is taken exactly while its call is
under way, unless the call could not even be made: an image file that cannot be created raises out of the
click, and the dialog stays taken for good.

No passphrase is asked for, so the volume has no keyslot when its page opens.  `dialog_volume_enrolls` is
the way from the button to the first keyslot.

`Sound` is the account of a dialog: it waits for one call, or for none, and what it has made and opened
comes from that call.  A create by path and a create by descriptor differ only in who makes the file, so
they share their lemmas.
-/

namespace LuksEnroll

open Library

/-! ## The dialogs

The three kinds with what they ask of the service, and their shared base.  The answer to a call is
an event of its own.
-/

/-- `EncryptDevicePage`, `CreateImagePage` and `ReformatImagePage`, with what they are constructed with. -/
inductive FormatKind : Type
  | encryptDevice (device : String)
  | createImage
  | reformatImage (path : String) (sizeMb : ℕ)
  deriving DecidableEq

/-- A call that makes a volume. -/
inductive FormatCall : Type
  | formatPartition (device passphrase : String)
  | createEncryptedImageFd (path : String) (sizeMb : ℕ) (passphrase : String)
  deriving DecidableEq

/-- What a dialog asks for: always without a passphrase. -/
def FormatKind.Asks (kind : FormatKind) (pendingPath : String) (call : FormatCall) : Prop :=
  match kind with
  | encryptDevice device => call = FormatCall.formatPartition device ""
  | createImage => ∃ sizeMb, call = FormatCall.createEncryptedImageFd pendingPath sizeMb ""
  | reformatImage path sizeMb => call = FormatCall.createEncryptedImageFd path sizeMb ""

/-- The volume that a call makes: at the path it names, or on a partition that the service names. -/
def FormatCall.LeadsTo : FormatCall → String → Prop
  | formatPartition _ _ => fun _ => True
  | createEncryptedImageFd path _ _ => fun target => target = path

/-- What a click finds: the entries of the form, and what becomes of `os.remove` and `os.open`. -/
structure Submission where
  path : String := ""
  sizeMb : ℕ := 256
  removed : Except String Unit := Except.ok ()
  opened : Except String Unit := Except.ok ()

/-- A dialog, as far as what it asks of the service and what it opens depend on it. -/
structure FormatDialog where
  kind : FormatKind
  status : String
  errorClass : Bool
  successClass : Bool
  spinning : Bool
  sensitive : Bool
  closed : Bool
  pendingPath : String
  /-- The calls under way. -/
  calls : List FormatCall
  -- what the dialog hands over to the list and to the window
  populates : ℕ
  imageFiles : List String
  pages : List DetailPage
  -- ghosts: did a click raise, and which call has made which volume
  raised : Bool
  made : List (FormatCall × String)

/-- What can happen to a dialog; a `GLib.Error` is its message. -/
inductive FormatEvent : Type
  | submitClicked (s : Submission)
  | formatDone (i : ℕ) (answer : Except String Triple)
  | createFinish (i : ℕ) (answer : Except String CreateAnswer)
  | closed

namespace FormatDialog

/-- A dialog as it comes up. -/
def new (kind : FormatKind) : FormatDialog where
  kind := kind
  status := ""
  errorClass := false
  successClass := false
  spinning := false
  sensitive := true
  closed := false
  pendingPath := ""
  calls := []
  populates := 0
  imageFiles := []
  pages := []
  raised := false
  made := []

/-- `_begin_submit`. -/
def beginSubmit (d : FormatDialog) (busyText : String) : FormatDialog :=
  { d with
    status := busyText
    errorClass := false
    successClass := false
    spinning := true
    sensitive := false }

/-- The `success_text` of the dialogs. -/
def successText : FormatKind → String
  | FormatKind.encryptDevice _ => "Encrypted successfully."
  | FormatKind.createImage => "Created successfully."
  | FormatKind.reformatImage _ _ => "Reformatted successfully."

/-- `refresh_list`. -/
def refreshList (d : FormatDialog) : FormatDialog :=
  match d.kind with
  | FormatKind.createImage => { d with imageFiles := d.imageFiles ++ [d.pendingPath] }
  | _ => { d with populates := d.populates + 1 }

/-- `_on_format_success`. -/
def formatSuccess (d : FormatDialog) (target : String) : FormatDialog :=
  let d := refreshList { d with
    spinning := false
    sensitive := true
    status := successText d.kind
    errorClass := false
    successClass := true }
  { d with closed := true, pages := d.pages ++ [DetailPage.new target none true] }

/-- `_on_format_failure`. -/
def formatFailure (d : FormatDialog) (error : String) : FormatDialog :=
  { d with
    spinning := false
    sensitive := true
    status := "Failed: " ++ error
    errorClass := true
    successClass := false }

/-- `create_encrypted_image_async`: what it raises nobody catches. -/
def createAsync (d : FormatDialog) (path : String) (sizeMb : ℕ) (s : Submission) : FormatDialog :=
  match s.opened with
  | Except.error _ => { d with raised := true }
  | Except.ok _ =>
      if sizeMb ≤ 2147483647 then
        { d with calls := d.calls ++ [FormatCall.createEncryptedImageFd path sizeMb ""] }
      else { d with raised := true }

/-- `_on_submit_clicked` of the three dialogs, for a button that can be pressed. -/
def submitClicked (d : FormatDialog) (s : Submission) : FormatDialog :=
  if d.sensitive && !d.closed then
    match d.kind with
    | FormatKind.encryptDevice device =>
        let d := d.beginSubmit "Encrypting…"
        { d with calls := d.calls ++ [FormatCall.formatPartition device ""] }
    | FormatKind.createImage =>
        let path := String.ofList (strip s.path.toList)
        if path = "" then { d with status := "File path cannot be empty.", errorClass := true }
        else { d.beginSubmit "Creating…" with pendingPath := path }.createAsync path s.sizeMb s
    | FormatKind.reformatImage path sizeMb =>
        let d := d.beginSubmit "Reformatting…"
        match s.removed with
        | Except.error e => d.formatFailure ("Could not remove '" ++ path ++ "': " ++ e)
        | Except.ok _ => d.createAsync path sizeMb s
  else d

/-- The end of a call: the volume that it made, or the error. -/
def finish (d : FormatDialog) (i : ℕ) (call : FormatCall) : Except String String → FormatDialog
  | Except.ok target =>
      let d := { d with calls := d.calls.eraseIdx i }.formatSuccess target
      { d with made := d.made ++ [(call, target)] }
  | Except.error e => { d with calls := d.calls.eraseIdx i }.formatFailure e

/-- What `run_async` makes of an answer, and `_on_format_done` of that. -/
def formatOutcome (device : String) : Except String Triple → Except String String
  | Except.ok (true, partition, _) => Except.ok (if partition = "" then device else partition)
  | Except.ok (false, _, stderr) => Except.error stderr
  | Except.error e => Except.error ("D-Bus error: " ++ e)

/-- `_on_create_finish`. -/
def createOutcome (path : String) : Except String CreateAnswer → Except String String
  | Except.ok (true, _, _) => Except.ok path
  | Except.ok (false, _, error) => Except.error error
  | Except.error e => Except.error ("D-Bus error: " ++ e)

/-- The path that `_on_create_finish` hands over is the one that the dialog holds. -/
def heldPath (d : FormatDialog) : String :=
  match d.kind with
  | FormatKind.reformatImage path _ => path
  | _ => d.pendingPath

/-- One step of a dialog. -/
def step (d : FormatDialog) : FormatEvent → FormatDialog
  | FormatEvent.submitClicked s => d.submitClicked s
  | FormatEvent.formatDone i answer =>
      match d.calls[i]? with
      | some (FormatCall.formatPartition device passphrase) =>
          d.finish i (FormatCall.formatPartition device passphrase) (formatOutcome device answer)
      | _ => d
  | FormatEvent.createFinish i answer =>
      match d.calls[i]? with
      | some (FormatCall.createEncryptedImageFd path sizeMb passphrase) =>
          d.finish i (FormatCall.createEncryptedImageFd path sizeMb passphrase)
            (createOutcome d.heldPath answer)
      | _ => d
  | FormatEvent.closed => { d with closed := true }

/-- The dialog after a run. -/
def after (kind : FormatKind) (events : List FormatEvent) : FormatDialog :=
  Events.run step (new kind) events

/-! ## The invariant

A dialog is fresh, waits for one call, has made its volume, or was left taken by a click that
raised.
-/

/-- A dialog is taken while its one call is under way, or for good after a click that raised; and once
it has made a volume it is done. -/
structure Sound (d : FormatDialog) : Prop where
  taken : d.sensitive = !d.spinning
  busy : d.spinning = true → (∃ call, d.calls = [call] ∧ d.kind.Asks d.pendingPath call
    ∧ d.raised = false) ∨ d.calls = [] ∧ d.raised = true
  idle : d.spinning = false → d.calls = [] ∧ d.raised = false
  volumes : d.made = [] ∧ d.pages = [] ∨ ∃ pendingPath call target, d.made = [(call, target)]
    ∧ d.pages = [DetailPage.new target none true] ∧ d.closed = true ∧ d.calls = []
    ∧ d.kind.Asks pendingPath call ∧ call.LeadsTo target

variable {d : FormatDialog}

/-- A dialog that can be used has made nothing yet. -/
lemma Sound.fresh (hd : d.Sound) (hopen : d.closed = false) : d.made = [] ∧ d.pages = [] := by
  rcases hd.volumes with hnone | ⟨_, _, _, -, -, hclosed, -⟩
  · exact hnone
  · rw [hopen] at hclosed
    cases hclosed

/-- The create that is sent is the one call the dialog waits for. -/
lemma sound_createAsync {path : String} {sizeMb : ℕ} {s : Submission} (htaken : d.sensitive = false)
    (hspinning : d.spinning = true) (hcalls : d.calls = []) (hraised : d.raised = false)
    (hasks : d.kind.Asks d.pendingPath (FormatCall.createEncryptedImageFd path sizeMb ""))
    (hfresh : d.made = [] ∧ d.pages = []) : (d.createAsync path sizeMb s).Sound := by
  have hraises : Sound { d with raised := true } :=
    ⟨by rw [htaken, hspinning]; rfl, fun _ => Or.inr ⟨hcalls, rfl⟩,
      fun h => (by rw [hspinning] at h; cases h), Or.inl hfresh⟩
  unfold createAsync
  split
  · exact hraises
  · split_ifs
    · refine ⟨by rw [htaken, hspinning]; rfl, fun _ => Or.inl ⟨_, ?_, hasks, hraised⟩,
        fun h => (by rw [hspinning] at h; cases h), Or.inl hfresh⟩
      rw [hcalls]
      rfl
    · exact hraises

lemma sound_formatFailure (hcalls : d.calls = []) (hraised : d.raised = false)
    (hvolumes : d.made = [] ∧ d.pages = []) (error : String) : (d.formatFailure error).Sound :=
  ⟨rfl, fun h => (by cases h), fun _ => ⟨hcalls, hraised⟩, Or.inl hvolumes⟩

lemma Sound.submitClicked (hd : d.Sound) (s : Submission) : (d.submitClicked s).Sound := by
  unfold FormatDialog.submitClicked
  split_ifs with hpressed
  · obtain ⟨hsensitive, hopen⟩ := Bool.and_eq_true_iff.mp hpressed
    have hopen' : d.closed = false := by simpa using hopen
    have hspinning : d.spinning = false := by
      have htaken := hd.taken
      rw [hsensitive] at htaken
      simpa using htaken.symm
    obtain ⟨hcalls, hraised⟩ := hd.idle hspinning
    have hfresh := hd.fresh hopen'
    split
    · rename_i device hkind
      refine ⟨rfl, fun _ => Or.inl ⟨FormatCall.formatPartition device "", ?_, ?_, hraised⟩,
        fun h => (by cases h), Or.inl hfresh⟩
      · show d.calls ++ _ = _
        rw [hcalls]
        rfl
      · show d.kind.Asks _ _
        rw [hkind]
        rfl
    · rename_i hkind
      show Sound (if _ then _ else _)
      split_ifs
      · exact ⟨hd.taken, hd.busy, hd.idle, Or.inl hfresh⟩
      · refine sound_createAsync rfl rfl hcalls hraised ?_ hfresh
        show d.kind.Asks _ _
        rw [hkind]
        exact ⟨s.sizeMb, rfl⟩
    · rename_i path sizeMb hkind
      dsimp only
      split
      · exact sound_formatFailure hcalls hraised hfresh _
      · refine sound_createAsync rfl rfl hcalls hraised ?_ hfresh
        show d.kind.Asks _ _
        rw [hkind]
        rfl
  · exact hd

/-- Listing anew changes the images that are remembered, and no more. -/
lemma refreshList_eq (d : FormatDialog) :
    ∃ files n, d.refreshList = { d with imageFiles := files, populates := n } := by
  unfold refreshList
  split
  · exact ⟨_, d.populates, rfl⟩
  · exact ⟨d.imageFiles, _, rfl⟩

/-- A create that succeeded leads to its own path. -/
lemma createOutcome_ok {path target : String} {answer : Except String CreateAnswer}
    (h : createOutcome path answer = Except.ok target) : target = path := by
  unfold createOutcome at h
  split at h
  · exact (Except.ok.inj h).symm
  · cases h
  · cases h

/-- A call under way is the only one, and nothing was made before. -/
lemma Sound.call (hd : d.Sound) {i : ℕ} {call : FormatCall} (hi : d.calls[i]? = some call) :
    d.calls.eraseIdx i = [] ∧ d.kind.Asks d.pendingPath call ∧ d.raised = false
      ∧ d.made = [] ∧ d.pages = [] := by
  have hne : d.calls ≠ [] := by
    intro hnone
    rw [hnone] at hi
    cases hi
  have hspinning : d.spinning = true := by
    by_contra hidle
    exact hne (hd.idle (by simpa using hidle)).1
  rcases hd.busy hspinning with ⟨call', hone, hasks, hraised⟩ | ⟨hnone, -⟩
  · rw [hone] at hi ⊢
    cases i with
    | succ i => cases hi
    | zero =>
        obtain rfl := Option.some.inj hi
        refine ⟨rfl, hasks, hraised, ?_⟩
        rcases hd.volumes with hfresh | ⟨_, _, _, -, -, -, hnone, -⟩
        · exact hfresh
        · exact absurd hnone hne
  · exact absurd hnone hne

/-- The end of a call opens the page of the volume, or shows why not. -/
lemma Sound.finish (hd : d.Sound) {i : ℕ} {call : FormatCall} (hi : d.calls[i]? = some call)
    {outcome : Except String String} (houtcome : ∀ target, outcome = Except.ok target →
      call.LeadsTo target) : (d.finish i call outcome).Sound := by
  obtain ⟨hcalls, hasks, hraised, hmade, hpages⟩ := hd.call hi
  cases outcome with
  | error e =>
      exact sound_formatFailure (d := { d with calls := d.calls.eraseIdx i }) hcalls hraised
        ⟨hmade, hpages⟩ e
  | ok target =>
      obtain ⟨files, n, hlisted⟩ := refreshList_eq { d with
        calls := d.calls.eraseIdx i
        spinning := false
        sensitive := true
        status := successText d.kind
        errorClass := false
        successClass := true }
      rw [FormatDialog.finish, formatSuccess, hlisted]
      refine ⟨rfl, fun h => (by cases h), fun _ => ⟨hcalls, hraised⟩, Or.inr
        ⟨d.pendingPath, call, target, ?_, ?_, rfl, hcalls, hasks, houtcome target rfl⟩⟩
      · show d.made ++ _ = _
        rw [hmade]
        rfl
      · show d.pages ++ _ = _
        rw [hpages]
        rfl

/-- An image is handed over under the path it was asked for. -/
lemma heldPath_of_asks {path passphrase : String} {sizeMb : ℕ}
    (hasks : d.kind.Asks d.pendingPath (FormatCall.createEncryptedImageFd path sizeMb passphrase)) :
    d.heldPath = path := by
  unfold heldPath
  cases hkind : d.kind with
  | encryptDevice device =>
      rw [hkind] at hasks
      cases hasks
  | createImage =>
      rw [hkind] at hasks
      obtain ⟨sizeMb', heq⟩ := hasks
      exact (FormatCall.createEncryptedImageFd.inj heq).1.symm
  | reformatImage path' sizeMb' =>
      rw [hkind] at hasks
      exact (FormatCall.createEncryptedImageFd.inj hasks).1.symm

lemma Sound.step (hd : d.Sound) (e : FormatEvent) : (d.step e).Sound := by
  cases e with
  | submitClicked s => exact hd.submitClicked s
  | formatDone i answer =>
      unfold FormatDialog.step
      dsimp only
      split
      · exact hd.finish ‹_› fun _ _ => trivial
      · exact hd
  | createFinish i answer =>
      unfold FormatDialog.step
      dsimp only
      split
      · rename_i path sizeMb passphrase hi
        refine hd.finish hi fun target htarget => ?_
        rw [heldPath_of_asks (hd.call hi).2.1] at htarget
        exact createOutcome_ok htarget
      · exact hd
  | closed =>
      refine { hd with volumes := hd.volumes.imp_right ?_ }
      rintro ⟨pendingPath, call, target, hmade, hpages, -, hrest⟩
      exact ⟨pendingPath, call, target, hmade, hpages, rfl, hrest⟩

/-- What stays: what a dialog is for, and that a click has raised. -/
def Keeps (d e : FormatDialog) : Prop := e.kind = d.kind ∧ (d.raised = true → e.raised = true)

/-- Creating does not change what the dialog is for. -/
lemma createAsync_keeps (d : FormatDialog) (path : String) (sizeMb : ℕ) (s : Submission) :
    d.Keeps (d.createAsync path sizeMb s) := by
  unfold createAsync
  split
  · exact ⟨rfl, fun _ => rfl⟩
  · split_ifs
    · exact ⟨rfl, id⟩
    · exact ⟨rfl, fun _ => rfl⟩

lemma finish_keeps (d : FormatDialog) (i : ℕ) (call : FormatCall) (outcome : Except String String) :
    d.Keeps (d.finish i call outcome) := by
  cases outcome with
  | error e => exact ⟨rfl, id⟩
  | ok target =>
      obtain ⟨files, n, hlisted⟩ := refreshList_eq { d with
        calls := d.calls.eraseIdx i
        spinning := false
        sensitive := true
        status := successText d.kind
        errorClass := false
        successClass := true }
      rw [finish, formatSuccess, hlisted]
      exact ⟨rfl, id⟩

lemma step_keeps (d : FormatDialog) (e : FormatEvent) : d.Keeps (d.step e) := by
  cases e with
  | submitClicked s =>
      show d.Keeps (d.submitClicked s)
      unfold FormatDialog.submitClicked
      split_ifs
      · split
        · exact ⟨rfl, id⟩
        · dsimp only
          split_ifs
          · exact ⟨rfl, id⟩
          · exact createAsync_keeps _ _ _ _
        · dsimp only
          split
          · exact ⟨rfl, id⟩
          · exact createAsync_keeps _ _ _ _
      · exact ⟨rfl, id⟩
  | formatDone i answer =>
      unfold FormatDialog.step
      dsimp only
      split
      · exact finish_keeps _ _ _ _
      · exact ⟨rfl, id⟩
  | createFinish i answer =>
      unfold FormatDialog.step
      dsimp only
      split
      · exact finish_keeps _ _ _ _
      · exact ⟨rfl, id⟩
  | closed => exact ⟨rfl, id⟩

lemma sound_after (kind : FormatKind) (events : List FormatEvent) :
    (after kind events).Sound ∧ (after kind events).kind = kind := by
  refine Events.run_invariant (I := fun d : FormatDialog => d.Sound ∧ d.kind = kind)
    (fun d e hd _ => ⟨hd.1.step e, (d.step_keeps e).1.trans hd.2⟩) ⟨?_, rfl⟩
    (Events.along_true _ events)
  exact ⟨rfl, fun h => (by cases h), fun _ => ⟨rfl, rfl⟩, Or.inl ⟨rfl, rfl⟩⟩

/-- A click that has raised is not made good. -/
lemma raised_stays {kind : FormatKind} {events : List FormatEvent}
    (hraised : (after kind events).raised = true) (later : List FormatEvent) :
    (after kind (events ++ later)).raised = true := by
  rw [after, Events.run_append]
  exact Events.run_invariant (I := fun d : FormatDialog => d.raised = true)
    (fun d e hd _ => (d.step_keeps e).2 hd) hraised (Events.along_true _ later)

/-- A dialog is busy exactly while there is a call, or once a click has raised. -/
lemma Sound.spinning_iff (hd : d.Sound) : d.spinning = true ↔ d.calls ≠ [] ∨ d.raised = true := by
  constructor
  · intro hspinning
    rcases hd.busy hspinning with ⟨call, hone, -⟩ | ⟨-, hraised⟩
    · exact Or.inl (by simp [hone])
    · exact Or.inr hraised
  · intro hbusy
    by_contra hidle
    obtain ⟨hnone, hraised⟩ := hd.idle (by simpa using hidle)
    simp [hnone, hraised] at hbusy

/-- **One volume per dialog.**  In every run of a format dialog at most one call is under way, and the
button is taken and the spinner turns exactly as long, or for good once a click has raised.  The dialog
makes at most one volume, with a call that has no passphrase and is for what the dialog is for; then it
is closed, makes no further call, and has opened the page of that volume and no other. -/
theorem one_volume_per_dialog (kind : FormatKind) (events : List FormatEvent) :
    let d := after kind events
    d.calls.length ≤ 1
      ∧ (d.sensitive = false ↔ d.calls ≠ [] ∨ d.raised = true)
      ∧ (d.spinning = true ↔ d.calls ≠ [] ∨ d.raised = true)
      ∧ (d.raised = true → ∀ later, (after kind (events ++ later)).sensitive = false)
      ∧ d.made.length ≤ 1
      ∧ d.pages = d.made.map (fun m => DetailPage.new m.2 none true)
      ∧ ∀ m ∈ d.made, d.closed = true ∧ d.calls = []
        ∧ (∃ pendingPath, kind.Asks pendingPath m.1) ∧ m.1.LeadsTo m.2 := by
  intro d
  obtain ⟨hd, hkind⟩ : d.Sound ∧ d.kind = kind := sound_after kind events
  have hspinning := hd.spinning_iff
  have hlength : d.calls.length ≤ 1 := by
    cases hbusy : d.spinning with
    | false => simp [(hd.idle hbusy).1]
    | true =>
        rcases hd.busy hbusy with ⟨call, hone, -⟩ | ⟨hnone, -⟩
        · simp [hone]
        · simp [hnone]
  have hsensitive : d.sensitive = false ↔ d.calls ≠ [] ∨ d.raised = true := by
    rw [hd.taken, ← hspinning]
    simp
  have hstuck : d.raised = true → ∀ later, (after kind (events ++ later)).sensitive = false := by
    intro hraised later
    have hlater := (sound_after kind (events ++ later)).1
    rw [hlater.taken, hlater.spinning_iff.mpr (Or.inr (raised_stays hraised later))]
    rfl
  refine ⟨hlength, hsensitive, hspinning, hstuck, ?_⟩
  rcases hd.volumes with ⟨hmade, hpages⟩ |
    ⟨pendingPath, call, target, hmade, hpages, hclosed, hcalls, hasks, hleads⟩
  · simp [hmade, hpages]
  · rw [hmade, hpages]
    refine ⟨le_refl _, rfl, fun m hm => ?_⟩
    obtain rfl := List.mem_singleton.mp hm
    exact ⟨hclosed, hcalls, ⟨pendingPath, hkind ▸ hasks⟩, hleads⟩

/-- A file that is there already. -/
example :
    (after FormatKind.createImage
      [FormatEvent.submitClicked { path := "/home/u/a.img", opened := Except.error "File exists" }]).raised
        = true := by decide

end FormatDialog

/-! ## From the dialog to the first method

What the dialog asks for becomes a request of the service; what it opens is a page on the new
volume, whose requests rest on the cached key.
-/

/-- The device was encrypted. -/
def encrypted : List FormatEvent :=
  [FormatEvent.submitClicked {}, FormatEvent.formatDone 0 (Except.ok (true, "/dev/sdb1", ""))]

end LuksEnroll
